import ByteMachine.Proofs.Cycle.Course
import ByteMachine.Proofs.Execution.Agreement

/-!
# The cells that matter

A cycle fetches three bytes at the program counter, also where the instruction is shorter. `reads m` are the cells that
matter to the next cycle: those that belong to the instruction, and the cell that it pops. Changing any other cell
changes nothing in the cycle but that cell (`step_poke`), so a cell that no cycle reads before it is written does not
matter to a run (`cycles_poke`, `run_poke`).
-/

namespace ByteMachine.Machine

/-- The bytes at the program counter that belong to the instruction there. A byte that is no opcode stands alone. -/
def extent (m : Machine) : List Byte :=
  (List.range ((Instruction.decode m.state.fetch.op).elim 1 fun i => i.opcode.length.toNat)).map
    fun k => m.state.pc + UInt8.ofNat k

/-- The cells that matter to the next cycle. -/
def reads (m : Machine) : List Byte :=
  if m.status = .running then m.extent ++ if m.executed?.any Instruction.pops then [m.state.sp] else [] else []

/-- One of the first `n` cycles writes the cell. -/
def Written (m : Machine) (x : Byte) (n : Nat) : Prop := ∃ k < n, (m.cycles k).writes? = some x

instance (m : Machine) (x : Byte) (n : Nat) : Decidable (m.Written x n) :=
  inferInstanceAs (Decidable (∃ k < n, (m.cycles k).writes? = some x))

/-- Puts a byte into a cell of memory. -/
def poke (m : Machine) (x v : Byte) : Machine := { m with state := m.state.poke x v }

variable {m : Machine} {i : Instruction} {s : State} {x : Byte} {n : Nat}

/-! ## Fetching -/

/-- A cell that does not belong to the instruction is none of its bytes. -/
theorem ne_of_not_mem_extent (hd : Instruction.decode m.state.fetch.op = some i) (hx : x ∉ m.extent) {k : Nat}
    (hk : k < i.opcode.length.toNat) : m.state.pc + UInt8.ofNat k ≠ x := by
  rintro rfl
  refine hx (List.mem_map.2 ⟨k, List.mem_range.2 ?_, rfl⟩)
  rw [hd]
  exact hk

/-- The first byte always belongs. -/
theorem ne_pc_of_not_mem_extent (hx : x ∉ m.extent) : m.state.pc ≠ x := by
  rintro rfl
  refine hx (List.mem_map.2 ⟨0, List.mem_range.2 ?_, UInt8.add_zero _⟩)
  cases hd : Instruction.decode m.state.fetch.op with
  | none => decide
  | some i =>
    have hlt := i.registerCount_lt_length
    simp only [Option.elim_some]
    omega

theorem fetch_op_poke (hx : x ∉ m.extent) (v : Byte) : (m.poke x v).state.fetch.op = m.state.fetch.op :=
  (m.state.read_poke x v m.state.pc).trans (if_neg (ne_pc_of_not_mem_extent hx))

theorem fetch_poke (hd : Instruction.decode m.state.fetch.op = some i) (hx : x ∉ m.extent) (v : Byte) :
    m.state.fetch.Agree (m.poke x v).state.fetch i where
  op := (fetch_op_poke hx v).symm
  a hlt := ((m.state.read_poke x v _).trans (if_neg (ne_of_not_mem_extent hd hx hlt))).symm
  b hlt := ((m.state.read_poke x v _).trans (if_neg (ne_of_not_mem_extent hd hx hlt))).symm

/-! ## One cycle -/

theorem not_mem_extent (hm : m.status = .running) (hx : x ∉ m.reads) : x ∉ m.extent := by
  rw [reads, if_pos hm] at hx
  exact fun h => hx (List.mem_append_left _ h)

theorem Executes.ne_sp (h : m.Executes i s) (hx : x ∉ m.reads) (hp : i.pops) : x ≠ m.state.sp := by
  rintro rfl
  rw [reads, if_pos h.running, executed?_eq_some_iff.2 ⟨s, h⟩] at hx
  exact hx (List.mem_append_right _ (by simp [hp]))

/-- With another byte in a cell that does not matter the same instruction is carried out. -/
theorem Executes.poke (h : m.Executes i s) (hx : x ∉ m.reads) (v : Byte) :
    (m.poke x v).Executes i (if m.writes? = some x then s else s.poke x v) := by
  have hextent := not_mem_extent h.running hx
  have hi := executed?_eq_some_iff.2 ⟨s, h⟩
  refine ⟨h.running, ?_, ?_⟩
  · rw [fetch_op_poke hextent, h.decoded]
  · refine Effect.congr_word ?_ (fetch_poke h.decoded hextent v)
    split
    · rename_i hw
      obtain ⟨j, hj, hpush, rfl⟩ := writes?_eq_some_iff.1 hw
      obtain rfl := Option.some.inj (hi.symm.trans hj)
      exact h.effect.poke_of_pushes hpush v
    · rename_i hw
      exact h.effect.poke (h.ne_sp hx) (fun hpush hxs => hw (writes?_eq_some_iff.2 ⟨i, hi, hpush, hxs⟩)) v

theorem fault?_poke (hx : x ∉ m.reads) (v : Byte) : (m.poke x v).fault? = m.fault? := by
  by_cases hm : m.status = .running
  · have hextent := not_mem_extent hm hx
    have hm' : (m.poke x v).status = .running := hm
    rw [fault?, fault?, if_pos hm, if_pos hm', fetch_op_poke hextent]
    cases hd : Instruction.decode m.state.fetch.op with
    | none => rfl
    | some i =>
      dsimp only
      rw [(fetch_poke hd hextent v).refused?_eq]
  · have hm' : (m.poke x v).status ≠ .running := hm
    rw [fault?, fault?, if_neg hm, if_neg hm']

theorem conclude_poke (s : State) (status : Status) (written : Sink × Option Refusal) (x v : Byte) :
    conclude (s.poke x v) status written = ((conclude s status written).1.poke x v, (conclude s status written).2) := by
  obtain ⟨sink, _ | refusal⟩ := written <;> rfl

/-- **A cycle does not depend on a cell that does not matter to it**: only that cell stays different, and not even that
if the cycle writes it. -/
theorem step_poke (hx : x ∉ m.reads) (v : Byte) :
    (m.poke x v).step.machine = (if m.writes? = some x then m.step.machine else m.step.machine.poke x v) ∧
      (m.poke x v).step.result = m.step.result := by
  by_cases h : ∃ i s, m.Executes i s
  · obtain ⟨i, s, hs⟩ := h
    have hstep := hs.step_machine
    have hstep' := (hs.poke hx v).step_machine
    by_cases hw : m.writes? = some x
    · rw [if_pos hw] at hstep' ⊢
      exact Prod.mk.inj (hstep'.trans hstep.symm)
    · rw [if_neg hw] at hstep' ⊢
      have hpoke := conclude_poke s.settled (if s.halted then .halted else .running) (m.sink.write s.output) x v
      rw [← hstep] at hpoke
      exact Prod.mk.inj (hstep'.trans hpoke)
  · have hw : m.writes? ≠ some x := by
      intro hw
      obtain ⟨i, hi, _⟩ := writes?_eq_some_iff.1 hw
      exact h ⟨i, executed?_eq_some_iff.1 hi⟩
    rw [if_neg hw]
    obtain hs | ⟨fault, hf⟩ | hm := step_cases m
    · contradiction
    · obtain ⟨log, hstep⟩ := step_of_fault hf
      obtain ⟨log', hstep'⟩ := step_of_fault ((fault?_poke hx v).trans hf)
      rw [hstep, hstep']
      exact ⟨rfl, rfl⟩
    · have hm' : (m.poke x v).status ≠ .running := hm
      rw [step_of_not_running hm, step_of_not_running hm']
      exact ⟨rfl, rfl⟩

/-! ## Runs -/

theorem written_succ : m.Written x (n + 1) ↔ m.Written x n ∨ (m.cycles n).writes? = some x := by
  constructor
  · rintro ⟨k, hk, hw⟩
    by_cases hkn : k = n
    · exact .inr (hkn ▸ hw)
    · exact .inl ⟨k, by omega, hw⟩
  · rintro (⟨k, hk, hw⟩ | hw)
    · exact ⟨k, by omega, hw⟩
    · exact ⟨n, by omega, hw⟩

/-- If no cycle reads a cell before it is written, then until it is written only this cell stays different, and
afterwards nothing. -/
theorem cycles_poke (hx : ∀ k < n, ¬ m.Written x k → x ∉ (m.cycles k).reads) (v : Byte) :
    (m.poke x v).cycles n = if m.Written x n then m.cycles n else (m.cycles n).poke x v := by
  induction n with
  | zero =>
    rw [if_neg]
    · rfl
    · rintro ⟨k, hk, _⟩
      omega
  | succ n ih =>
    have hn := ih fun k hk => hx k (by omega)
    rw [cycles_succ, hn, cycles_succ]
    by_cases hw : m.Written x n
    · rw [if_pos hw, if_pos (written_succ.2 (.inl hw))]
    · rw [if_neg hw, (step_poke (hx n (by omega) hw) v).1]
      by_cases hw' : (m.cycles n).writes? = some x
      · rw [if_pos hw', if_pos (written_succ.2 (.inr hw'))]
      · rw [if_neg hw', if_neg (by simp [written_succ, hw, hw'])]

/-- **Only cells that are read can matter.** If no cycle reads a cell before it is written, then a run with another byte
in that cell has the same results and goes through the same states, but for the cell until it is written. -/
theorem run_poke (hx : ∀ k < n, ¬ m.Written x k → x ∉ (m.cycles k).reads) (v : Byte) :
    (∀ k < n, ((m.poke x v).cycles k).step.result = (m.cycles k).step.result) ∧
      ∀ k ≤ n, ((m.poke x v).cycles k).status = (m.cycles k).status ∧
        ((m.poke x v).cycles k).sink = (m.cycles k).sink ∧
        ((m.poke x v).cycles k).state.registers = (m.cycles k).state.registers ∧
        ((m.poke x v).cycles k).state.flags = (m.cycles k).state.flags ∧
        ((m.poke x v).cycles k).state.pc = (m.cycles k).state.pc ∧
        ((m.poke x v).cycles k).state.halted = (m.cycles k).state.halted ∧
        ((m.poke x v).cycles k).state.printed = (m.cycles k).state.printed ∧
        ∀ y, y ≠ x ∨ m.Written x k →
          ((m.poke x v).cycles k).state.memory.read y = (m.cycles k).state.memory.read y := by
  refine ⟨fun k hk => ?_, fun k hk => ?_⟩
  · rw [cycles_poke (fun j hj => hx j (by omega)) v]
    by_cases hw : m.Written x k
    · rw [if_pos hw]
    · rw [if_neg hw, (step_poke (hx k hk hw) v).2]
  · rw [cycles_poke (fun j hj => hx j (by omega)) v]
    by_cases hw : m.Written x k
    · rw [if_pos hw]
      exact ⟨rfl, rfl, rfl, rfl, rfl, rfl, rfl, fun _ _ => rfl⟩
    · rw [if_neg hw]
      refine ⟨rfl, rfl, rfl, rfl, rfl, rfl, rfl, fun y hy => ?_⟩
      have hne : y ≠ x := hy.resolve_right hw
      exact ((m.cycles k).state.read_poke x v y).trans (if_neg hne)

/-- A jump from 0 to 4, where a register is pushed onto the cell after the jump and popped again. The cycle of the jump
fetches this cell. -/
def pushAfterJump : Machine :=
  ⟨{ State.initial with
      registers := ⟨#v[4, 0, 0, 0, 0, 0, 0, 3]⟩
      memory := [(0, 0x54), (4, 0x45), (6, 0x46), (7, 2), (8, 0x01)].foldl
        (fun memory cell => memory.write cell.1 cell.2) Memory.blank }, .running, {}⟩

/-- Whatever the cell holds, the pop takes what was pushed. -/
theorem run_poke_pushAfterJump :
    (∀ k < 3, ¬ pushAfterJump.Written 2 k → 2 ∉ (pushAfterJump.cycles k).reads) ∧
      (pushAfterJump.poke 2 0xFF).state.fetch = ⟨0x54, 0, 0xFF⟩ ∧
      ((pushAfterJump.poke 2 0xFF).cycles 3).state.memory.read 2 = 4 := by
  have hx : ∀ k < 3, ¬ pushAfterJump.Written 2 k → 2 ∉ (pushAfterJump.cycles k).reads := by decide +kernel
  have hw : pushAfterJump.Written 2 3 := by decide +kernel
  obtain ⟨_, _, _, _, _, _, _, hmemory⟩ := (run_poke hx 0xFF).2 3 (Nat.le_refl 3)
  refine ⟨hx, by decide +kernel, ?_⟩
  rw [hmemory 2 (.inr hw)]
  decide +kernel

end ByteMachine.Machine
