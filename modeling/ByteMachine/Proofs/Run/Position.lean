import ByteMachine.Proofs.Run.Iteration

/-!
# Code that can stand anywhere

- `shift k` moves everything that a state has in memory on by `k` addresses, with the program counter and the stack
  pointer; addresses wrap (`Memory.read_shift`). What moves and what stays is written down in `Moved` (`moved_shift`).
- Fetching and every operation on states other than a jump commute with it (`State.fetch_shift`, `State.lower_shift`,
  ..), so an instruction that does not jump and names general registers only does (`Effect.shift`), and so do a cycle
  of such an instruction (`step_shift`) and all of them one after the other (`cycles_shift`).

`run_position_independent` puts this together.
-/

namespace ByteMachine

/-- Every cell takes the byte of the cell `k` addresses before it. -/
def Memory.shift (m : Memory) (k : Byte) : Memory := ⟨Vector.ofFn fun a => m.read (UInt8.ofFin a - k)⟩

/-- Moves memory, the program counter and the stack pointer on by `k` addresses. -/
def State.shift (s : State) (k : Byte) : State :=
  { s.set Register.sp (s.sp + k) with pc := s.pc + k, memory := s.memory.shift k }

/-- A fault names the address where it came up. -/
def Fault.shift (k : Byte) : Fault → Fault
  | invalidInstruction op pc => invalidInstruction op (pc + k)
  | fault => fault

/-- No operand that `i` takes as a register is the stack pointer. -/
def Word.General (w : Word) (i : Instruction) : Prop :=
  (1 ≤ i.registerCount → w.a ≠ 7) ∧ (2 ≤ i.registerCount → w.b ≠ 7)

instance (w : Word) (i : Instruction) : Decidable (w.General i) := inferInstanceAs (Decidable (_ ∧ _))

theorem Memory.read_shift (m : Memory) (k x : Byte) : (m.shift k).read (x + k) = m.read x := by
  have hcell (y : Byte) : (m.shift k).read y = m.read (y - k) := by simp [read, shift]
  rw [hcell, UInt8.add_sub_cancel]

theorem Memory.write_shift (m : Memory) (k a v : Byte) : (m.shift k).write (a + k) v = (m.write a v).shift k := by
  refine ext_read fun x => ?_
  obtain ⟨y, rfl⟩ : ∃ y, x = y + k := ⟨x - k, (UInt8.sub_add_cancel x k).symm⟩
  rw [read_write, read_shift, read_shift, read_write]
  simp only [UInt8.add_left_inj]

/-! ## States -/

namespace State

variable (s : State) (k : Byte)

theorem get_shift {r : Register} (hr : r ≠ Register.sp) : (s.shift k).get r = s.get r :=
  (s.get_set Register.sp r _).trans (if_neg hr)

theorem sp_shift : (s.shift k).sp = s.sp + k := s.sp_set_sp (s.sp + k)

theorem fetch_shift : (s.shift k).fetch = s.fetch := by
  have hread (x : Byte) : (s.shift k).memory.read (s.pc + k + x) = s.memory.read (s.pc + x) := by
    have hx : s.pc + k + x = s.pc + x + k := by ac_rfl
    rw [hx]
    exact s.memory.read_shift k (s.pc + x)
  rw [fetch, fetch, ← hread 1, ← hread 2, ← s.memory.read_shift k s.pc]
  rfl

theorem top_shift : (s.shift k).top = s.top := by
  rw [top, sp_shift]
  exact s.memory.read_shift k s.sp

theorem set_shift {r : Register} (hr : r ≠ Register.sp) (v : Byte) :
    (s.shift k).set r v = (s.set r v).shift k := by
  have hsp : (s.set r v).sp = s.sp := (s.get_set r Register.sp v).trans (if_neg hr.symm)
  simp only [shift, hsp]
  simp only [set, Registers.set_comm _ hr]

/-- The stack pointer moves along. -/
theorem set_sp_shift (v : Byte) : (s.shift k).set Register.sp (v + k) = (s.set Register.sp v).shift k := by
  simp only [shift, sp_set_sp]
  simp only [set, Registers.set_set]

theorem lower_shift : (s.shift k).lower = s.lower.shift k := by
  have hsp : s.sp + k - 1 = s.sp - 1 + k := by grind
  rw [lower, sp_shift, hsp, set_sp_shift, lower]

theorem raise_shift : (s.shift k).raise = s.raise.shift k := by
  have hsp : s.sp + k + 1 = s.sp + 1 + k := by ac_rfl
  rw [raise, sp_shift, hsp, set_sp_shift, raise]

theorem setTop_shift (v : Byte) : (s.shift k).setTop v = (s.setTop v).shift k := by
  rw [setTop, sp_shift]
  simp only [shift, Memory.write_shift]
  rfl

theorem advance_shift (op : Opcode) : (s.shift k).advance op = (s.advance op).shift k := by
  have hpc : s.pc + k + op.length = s.pc + op.length + k := by ac_rfl
  simp only [advance, next, shift, hpc]
  rfl

end State

/-! ## Instructions -/

variable {w : Word} {i : Instruction} {s s' : State} {m : Machine} {n : Nat}

/-- **An instruction that does not jump can stand anywhere**, if it names general registers only. -/
theorem Effect.shift (h : Effect w s i s') (hi : i.jumps = false) (hw : w.General i) (k : Byte) :
    Effect w (s.shift k) i (s'.shift k) := by
  cases h with
  | ldi hr =>
    have hr' := (ne_sp hr (hw.1 (by decide))).symm
    rw [← State.advance_shift, ← State.set_shift s k hr']
    exact .ldi hr
  | prn hr =>
    have hr' := (ne_sp hr (hw.1 (by decide))).symm
    rw [← State.advance_shift, ← s.get_shift k hr']
    exact .prn hr
  | hlt =>
    rw [← State.advance_shift]
    exact .hlt
  | add hx hy | mul hx hy =>
    have hx' := (ne_sp hx (hw.1 (by decide))).symm
    have hy' := (ne_sp hy (hw.2 (by decide))).symm
    rw [← State.advance_shift, ← State.set_shift s k hx', ← s.get_shift k hx', ← s.get_shift k hy']
    constructor
    · exact hx
    · exact hy
  | cmp hx hy =>
    have hx' := (ne_sp hx (hw.1 (by decide))).symm
    have hy' := (ne_sp hy (hw.2 (by decide))).symm
    rw [← State.advance_shift, ← s.get_shift k hx', ← s.get_shift k hy']
    exact .cmp hx hy
  | push hr =>
    have hr' := (ne_sp hr (hw.1 (by decide))).symm
    rw [← State.advance_shift, ← State.setTop_shift, ← s.lower.get_shift k hr', ← State.lower_shift]
    exact .push hr
  | pop hr =>
    have hr' := (ne_sp hr (hw.1 (by decide))).symm
    rw [← State.advance_shift, ← State.raise_shift, ← State.set_shift s k hr', ← s.top_shift k]
    exact .pop hr
  | call | ret | jmp | jeq | jne => contradiction

namespace Machine

/-- Moves the state on by `k` addresses. -/
def shift (m : Machine) (k : Byte) : Machine := { m with state := m.state.shift k }

/-- The next cycle carries out no instruction that jumps or takes the stack pointer as an operand. -/
def Floats (m : Machine) : Prop := ∀ i ∈ m.executed?, i.jumps = false ∧ m.state.fetch.General i

instance (m : Machine) : Decidable m.Floats := by
  unfold Floats
  infer_instance

/-- The second machine is the first one moved on by `k` addresses: a cell holds what the one `k` addresses before it
holds, the program counter and the stack pointer point there, and everything else is the same. -/
structure Moved (k : Byte) (m m' : Machine) : Prop where
  read : ∀ x, m'.state.memory.read (x + k) = m.state.memory.read x
  pc : m'.state.pc = m.state.pc + k
  sp : m'.state.sp = m.state.sp + k
  get : ∀ r ≠ Register.sp, m'.state.get r = m.state.get r
  flags : m'.state.flags = m.state.flags
  halted : m'.state.halted = m.state.halted
  printed : m'.state.printed = m.state.printed
  status : m'.status = m.status
  sink : m'.sink = m.sink

theorem moved_shift (m : Machine) (k : Byte) : m.Moved k (m.shift k) where
  read := m.state.memory.read_shift k
  pc := rfl
  sp := m.state.sp_shift k
  get _ hr := m.state.get_shift k hr
  flags := rfl
  halted := rfl
  printed := rfl
  status := rfl
  sink := rfl

/-! ## One cycle -/

theorem Executes.shift (h : m.Executes i s) (hm : m.Floats) (k : Byte) : (m.shift k).Executes i (s.shift k) := by
  obtain ⟨hi, hw⟩ := hm i (executed?_eq_some_iff.2 ⟨s, h⟩)
  have hfetch : (m.shift k).state.fetch = m.state.fetch := m.state.fetch_shift k
  refine ⟨h.running, ?_, ?_⟩
  · rw [hfetch]
    exact h.decoded
  · rw [hfetch]
    exact h.effect.shift hi hw k

theorem fault?_shift (m : Machine) (k : Byte) : (m.shift k).fault? = m.fault?.map (Fault.shift k) := by
  have hfetch : (m.shift k).state.fetch = m.state.fetch := m.state.fetch_shift k
  have hstatus : (m.shift k).status = m.status := rfl
  rw [fault?, fault?, hfetch, hstatus]
  split
  · split
    · rfl
    · rename_i i _
      cases m.state.fetch.refused? i <;> rfl
  · rfl

theorem conclude_shift (s : State) (status : Status) (written : Sink × Option Refusal) (k : Byte) :
    conclude (s.shift k) status written =
      ((conclude s status written).1.shift k, (conclude s status written).2.mapError (Fault.shift k)) := by
  obtain ⟨sink, _ | refusal⟩ := written <;> rfl

/-- **A cycle does not depend on where the code and the stack are**, unless it jumps. Only a fault says where. -/
theorem step_shift (hm : m.Floats) (k : Byte) : (m.shift k).step.machine = m.step.machine.shift k ∧
    (m.shift k).step.result = m.step.result.mapError (Fault.shift k) := by
  obtain ⟨i, s, hs⟩ | ⟨fault, hf⟩ | hne := step_cases m
  · have hstep := (hs.shift hm k).step_machine
    have hshift := conclude_shift s.settled (if s.halted then .halted else .running) (m.sink.write s.output) k
    rw [← hs.step_machine] at hshift
    exact Prod.mk.inj (hstep.trans hshift)
  · have hf' : (m.shift k).fault? = some (fault.shift k) := by rw [fault?_shift, hf, Option.map_some]
    obtain ⟨log, hstep⟩ := step_of_fault hf
    obtain ⟨log', hstep'⟩ := step_of_fault hf'
    rw [hstep, hstep']
    exact ⟨rfl, rfl⟩
  · have hne' : (m.shift k).status ≠ .running := hne
    rw [step_of_not_running hne, step_of_not_running hne']
    exact ⟨rfl, rfl⟩

/-! ## Cycle after cycle -/

theorem cycles_shift (h : ∀ j < n, (m.cycles j).Floats) (k : Byte) : (m.shift k).cycles n = (m.cycles n).shift k := by
  induction n with
  | zero => rfl
  | succ n ih =>
    rw [cycles_succ, ih fun j hj => h j (Nat.lt_succ_of_lt hj), cycles_succ]
    exact (step_shift (h n (Nat.lt_succ_self n)) k).1

theorem resultAfter_shift (h : ∀ j < n, (m.cycles j).Floats) (k : Byte) :
    (m.shift k).resultAfter n = (m.resultAfter n).mapError (Fault.shift k) := by
  cases n with
  | zero => rfl
  | succ n =>
    rw [resultAfter, cycles_shift (fun j hj => h j (Nat.lt_succ_of_lt hj)) k]
    exact (step_shift (h n (Nat.lt_succ_self n)) k).2

/-- Where the machine stops, the one that was moved stops. -/
theorem Stops.shift (hn : m.Stops n) (h : ∀ j < n, (m.cycles j).Floats) (k : Byte) : (m.shift k).Stops n := by
  have hstatus : ∀ j ≤ n, ((m.shift k).cycles j).status = (m.cycles j).status := by
    intro j hj
    rw [cycles_shift (fun i hi => h i (Nat.lt_of_lt_of_le hi hj)) k]
    rfl
  refine ⟨fun j hj => ?_, ?_⟩
  · rw [hstatus j (Nat.le_of_lt hj)]
    exact hn.1 j hj
  · rw [hstatus n (Nat.le_refl n)]
    exact hn.2

/-- **Code that does not jump can stand anywhere**, also across the end of memory. As long as the instructions that are
carried out do not jump and do not name the stack pointer, a machine that was moved on by `k` addresses stays the other
one moved on by `k`, cycle after cycle: it has the same registers, flags, status and output. The cycles have the same
results, and a fault differs in the address that it names only. So has a run that ends. -/
theorem run_position_independent (h : ∀ j < n, (m.cycles j).Floats) (k : Byte) :
    (∀ j ≤ n, (m.cycles j).Moved k ((m.shift k).cycles j)) ∧
    (∀ j < n, ((m.shift k).cycles j).step.result = (m.cycles j).step.result.mapError (Fault.shift k)) ∧
    (m.Stops n → ∃ r r', m.run = some r ∧ (m.shift k).run = some r' ∧ r.machine.Moved k r'.machine ∧
      r'.result = r.result.mapError (Fault.shift k)) := by
  have hcycles : ∀ j ≤ n, (m.shift k).cycles j = (m.cycles j).shift k := by
    intro j hj
    exact cycles_shift (fun i hi => h i (Nat.lt_of_lt_of_le hi hj)) k
  refine ⟨?_, ?_, ?_⟩
  · intro j hj
    rw [hcycles j hj]
    exact (m.cycles j).moved_shift k
  · intro j hj
    rw [hcycles j (Nat.le_of_lt hj)]
    exact (step_shift (h j hj) k).2
  · intro hn
    refine ⟨m.replyAfter n, (m.shift k).replyAfter n, run_of_stops hn, run_of_stops (hn.shift h k), ?_,
      resultAfter_shift h k⟩
    rw [replyAfter, replyAfter, hcycles n (Nat.le_refl n)]
    exact (m.cycles n).moved_shift k

/-- A program at 0 that pushes 5, pops it into another register, prints it and halts. The stack pointer is 1. -/
def pushAndPrint : Machine :=
  ⟨{ State.initial with
      registers := Registers.initial.set Register.sp 1
      memory := Memory.blank.overlay [0x82, 0, 5, 0x45, 0, 0x46, 1, 0x47, 1, 0x01] }, .running, {}⟩

/-- Moved on by 255 addresses, the first instruction starts in the last cell, and the last cell is pushed to. -/
theorem run_position_independent_acrossEnd :
    (∀ j < 5, (pushAndPrint.cycles j).Floats) ∧ (pushAndPrint.shift 0xFF).state.pc = 0xFF ∧
      ((pushAndPrint.shift 0xFF).cycles 2).state.sp = 0xFF ∧
      ((pushAndPrint.shift 0xFF).cycles 2).state.memory.read 0xFF = 5 ∧
      ∃ r', (pushAndPrint.shift 0xFF).run = some r' ∧ r'.result = .ok .halted ∧
        r'.machine.sink.text = "5\nProgram Halted\n" := by
  have hfloats : ∀ j < 5, (pushAndPrint.cycles j).Floats := by decide +kernel
  have hstops : pushAndPrint.Stops 5 := by
    have hgoes : ∀ j < 5, (pushAndPrint.cycles j).status = .running := by decide +kernel
    exact ⟨hgoes, by decide +kernel⟩
  obtain ⟨hmoved, _, hrun⟩ := run_position_independent hfloats 0xFF
  obtain ⟨r, r', hr, hr', hsame, hresult⟩ := hrun hstops
  obtain rfl := Option.some.inj ((run_of_stops hstops).symm.trans hr)
  refine ⟨hfloats, (hmoved 0 (by decide)).pc, ?_, ?_, r', hr', ?_, ?_⟩
  · rw [(hmoved 2 (by decide)).sp]
    decide +kernel
  · have hread := (hmoved 2 (by decide)).read 0
    rw [UInt8.zero_add] at hread
    rw [hread]
    decide +kernel
  · rw [hresult]
    decide +kernel
  · rw [hsame.sink]
    decide +kernel

end Machine
end ByteMachine
