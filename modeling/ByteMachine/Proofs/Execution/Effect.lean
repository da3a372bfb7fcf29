import ByteMachine.Isa.Execution

/-!
# The effects of instructions

- `Effect w s i s'` says that instruction `i` with the operands of `w` makes the state `s'` of `s`, one case for each
  instruction. Under its own opcode an instruction succeeds with exactly this effect (`execute_eq_ok_iff`); under another
  one as well, unless it goes by the opcode (`execute_eq_ok_iff_of_suits`). It has an effect if the operands that it
  takes as registers name registers (`exists_effect`); otherwise it fails for the first operand that does not
  (`execute_of_refused`).
- What an effect does to one part of the state: `Effect.get`, `Effect.sp`, `Effect.memory`, `Effect.pc`,
  `Effect.flags`, `Effect.halted`, `Effect.printed`.
-/

namespace ByteMachine

/-! ## Kinds of instructions -/

namespace Instruction

/-- The instructions that put a byte on the stack. -/
def pushes : Instruction → Bool
  | push | call => true
  | _ => false

/-- The instructions that take a byte from the stack. -/
def pops : Instruction → Bool
  | pop | ret => true
  | _ => false

/-- The instructions that assign the register of their first operand. -/
def assigns : Instruction → Bool
  | ldi | add | mul | pop => true
  | _ => false

/-- The instructions of the arithmetic unit, which goes by the opcode in the word. -/
def computes : Instruction → Bool
  | add | mul | cmp => true
  | _ => false

/-- The instructions that may go on elsewhere than at the next instruction. -/
def jumps : Instruction → Bool
  | call | ret | jmp | jeq | jne => true
  | _ => false

/-- How many operands an instruction takes as registers, the first ones. -/
def registerCount : Instruction → Nat
  | hlt | ret => 0
  | add | mul | cmp => 2
  | _ => 1

end Instruction

/-- The operands that `i` takes as registers name registers. -/
def Word.Valid (w : Word) (i : Instruction) : Prop :=
  (1 ≤ i.registerCount → w.a.toNat < 8) ∧ (2 ≤ i.registerCount → w.b.toNat < 8)

instance (w : Word) (i : Instruction) : Decidable (w.Valid i) := inferInstanceAs (Decidable (_ ∧ _))

/-- If `i` goes by the opcode, then the word starts with the opcode of `i`. -/
def Word.Suits (w : Word) (i : Instruction) : Prop := i.computes → Instruction.decode w.op = some i

/-- The first operand that should name a register and does not. -/
def Word.refused? (w : Word) (i : Instruction) : Option Byte :=
  if 1 ≤ i.registerCount ∧ 8 ≤ w.a.toNat then some w.a
  else if 2 ≤ i.registerCount ∧ 8 ≤ w.b.toNat then some w.b
  else none

theorem Word.refused?_eq_none_iff {w : Word} {i : Instruction} : w.refused? i = none ↔ w.Valid i := by
  unfold refused? Valid
  grind

/-- The next instruction stands after the bytes of this one. -/
theorem State.next_of_decode {s : State} {op : Opcode} {i : Instruction} (hd : Instruction.decode op = some i) :
    s.next op = s.pc + i.opcode.length := by
  rw [State.next, ← Instruction.opcode_of_decode hd]

/-- A call goes on two bytes later. -/
theorem State.next_of_call {s : State} {op : Opcode} (hd : Instruction.decode op = some .call) :
    s.next op = s.pc + 2 := next_of_decode hd

/-! ## Effects -/

/-- What an instruction that succeeds makes of a state. -/
inductive Effect (w : Word) (s : State) : Instruction → State → Prop
  | ldi {r : Register} : w.a.toNat = r.val → Effect w s .ldi ((s.set r w.b).advance w.op)
  | prn {r : Register} : w.a.toNat = r.val → Effect w s .prn ({ s with printed := some (s.get r) }.advance w.op)
  | hlt : Effect w s .hlt ({ s with halted := true }.advance w.op)
  | add {x y : Register} : w.a.toNat = x.val → w.b.toNat = y.val →
      Effect w s .add ((s.set x (s.get x + s.get y)).advance w.op)
  | mul {x y : Register} : w.a.toNat = x.val → w.b.toNat = y.val →
      Effect w s .mul ((s.set x (s.get x * s.get y)).advance w.op)
  | cmp {x y : Register} : w.a.toNat = x.val → w.b.toNat = y.val →
      Effect w s .cmp ({ s with flags := .ofComparison (s.get x) (s.get y) }.advance w.op)
  | push {r : Register} : w.a.toNat = r.val → Effect w s .push ((s.lower.setTop (s.lower.get r)).advance w.op)
  | pop {r : Register} : w.a.toNat = r.val → Effect w s .pop ((s.set r s.top).raise.advance w.op)
  | call {r : Register} : w.a.toNat = r.val →
      Effect w s .call { s.lower.setTop (s.next w.op) with pc := s.lower.get r }
  | ret : Effect w s .ret { s.raise with pc := s.top }
  | jmp {r : Register} : w.a.toNat = r.val → Effect w s .jmp { s with pc := s.get r }
  | jeq {r : Register} : w.a.toNat = r.val →
      Effect w s .jeq { s with pc := if s.flags.isEqual then s.get r else s.next w.op }
  | jne {r : Register} : w.a.toNat = r.val →
      Effect w s .jne { s with pc := if s.flags.isEqual then s.next w.op else s.get r }

/-- A computation that goes on after another one fails if that one does. -/
theorem bind_eq_error {ε α β : Type} {x : Except ε α} {f : α → Except ε β} {e : ε} (h : x = .error e) :
    x >>= f = .error e := by
  rw [h]
  rfl

/-- A computation that goes on after another one succeeds iff both do. -/
theorem bind_eq_ok_iff {ε α β : Type} {x : Except ε α} {f : α → Except ε β} {b : β} :
    x >>= f = .ok b ↔ ∃ a, x = .ok a ∧ f a = .ok b := by
  cases x <;> simp [bind, Except.bind]

variable {i : Instruction} {w : Word} {s s' : State}

/-- An instruction that succeeds has its effect. -/
theorem effect_of_execute (hw : w.Suits i) (h : execute i w s = .ok s') : Effect w s i s' := by
  cases i <;> simp only [execute, bind_eq_ok_iff, operand_eq_ok_iff, pure, Except.pure, Except.ok.injEq] at h
  case hlt => exact h ▸ .hlt
  case ret => exact h ▸ .ret
  case add | mul | cmp =>
    obtain ⟨x, hx, y, hy, h⟩ := h
    rw [compute, hw rfl] at h
    obtain rfl := Except.ok.inj h
    constructor
    · exact hx
    · exact hy
  all_goals
    obtain ⟨r, hr, rfl⟩ := h
    constructor
    exact hr

/-- An instruction succeeds with its effect and no other, also under an opcode that it does not go by. -/
theorem execute_eq_ok_iff_of_suits (hw : w.Suits i) : execute i w s = .ok s' ↔ Effect w s i s' := by
  refine ⟨effect_of_execute hw, fun h => ?_⟩
  cases h with
  | hlt | ret => rfl
  | add hx hy | mul hx hy | cmp hx hy =>
    rw [execute, operand_eq_ok_iff.2 hx, operand_eq_ok_iff.2 hy]
    simp only [bind, Except.bind, compute, hw rfl]
  | ldi hr | prn hr | push hr | pop hr | call hr | jmp hr | jeq hr | jne hr =>
    rw [execute, operand_eq_ok_iff.2 hr]
    rfl

/-- Under its own opcode an instruction succeeds with its effect and no other. -/
theorem execute_eq_ok_iff (hd : Instruction.decode w.op = some i) : execute i w s = .ok s' ↔ Effect w s i s' :=
  execute_eq_ok_iff_of_suits fun _ => hd

/-- An instruction has an effect if the operands that it takes as registers name registers. -/
theorem exists_effect (hv : w.Valid i) : ∃ s', Effect w s i s' := by
  have first : 1 ≤ i.registerCount → ∃ r : Register, w.a.toNat = r.val := fun h => ⟨⟨_, hv.1 h⟩, rfl⟩
  have second : 2 ≤ i.registerCount → ∃ r : Register, w.b.toNat = r.val := fun h => ⟨⟨_, hv.2 h⟩, rfl⟩
  cases i with
  | hlt => exact ⟨_, .hlt⟩
  | ret => exact ⟨_, .ret⟩
  | add | mul | cmp =>
    obtain ⟨x, hx⟩ := first (by decide)
    obtain ⟨y, hy⟩ := second (by decide)
    apply Exists.intro
    constructor
    · exact hx
    · exact hy
  | _ =>
    obtain ⟨r, hr⟩ := first (by decide)
    apply Exists.intro
    constructor
    exact hr

/-- An instruction fails for the first operand that should name a register and does not. -/
theorem execute_of_refused {index : Byte} (h : w.refused? i = some index) :
    execute i w s = .error (.invalidRegister index) := by
  unfold Word.refused? at h
  split at h
  · rename_i hfirst
    obtain rfl := Option.some.inj h
    have ha : operand w.a = .error (.invalidRegister w.a) := operand_eq_error_iff.2 ⟨hfirst.2, rfl⟩
    cases i with
    | hlt | ret => exact absurd hfirst.1 (by decide)
    | _ => exact bind_eq_error ha
  · split at h
    · rename_i hfirst hsecond
      obtain rfl := Option.some.inj h
      have hb : operand w.b = .error (.invalidRegister w.b) := operand_eq_error_iff.2 ⟨hsecond.2, rfl⟩
      have hlt : w.a.toNat < 8 := by omega
      have ha : operand w.a = .ok ⟨w.a.toNat, hlt⟩ := operand_eq_ok_iff.2 rfl
      cases i with
      | add | mul | cmp =>
        rw [execute, ha]
        exact bind_eq_error (x := operand w.b) hb
      | _ => exact absurd hsecond.1 (by decide)
    · contradiction

namespace Effect

/-- An instruction that has an effect takes registers that there are. -/
theorem valid (h : Effect w s i s') : w.Valid i := by
  cases h <;> simp_all [Word.Valid, Instruction.registerCount]

/-- An operand other than 7 does not name the stack pointer. -/
theorem ne_sp {index : Byte} {r : Register} (hr : index.toNat = r.val) (h : index ≠ 7) : Register.sp ≠ r := by
  rintro rfl
  exact h (UInt8.toNat_inj.1 hr)

/-- A register keeps its value unless it is the first operand of an instruction that assigns or the stack pointer of
one that pushes or pops. -/
theorem get (h : Effect w s i s') {x : Register} (ha : i.assigns → w.a.toNat ≠ x.val)
    (hx : i.pushes ∨ i.pops → x ≠ Register.sp) : s'.get x = s.get x := by
  cases h <;> simp_all [Instruction.assigns, Instruction.pushes, Instruction.pops, State.get, State.advance, State.set,
    State.lower, State.raise, State.setTop, Registers.get_set, Fin.ext_iff]
  all_goals grind

/-- The stack pointer moves by one cell for a byte that is pushed or popped. -/
theorem sp (h : Effect w s i s') (ha : i.assigns → w.a ≠ 7) :
    s'.sp = if i.pushes then s.sp - 1 else if i.pops then s.sp + 1 else s.sp := by
  cases h with
  | ldi hr | add hr _ | mul hr _ | pop hr =>
    have := ne_sp hr (ha rfl)
    simp [Instruction.pushes, Instruction.pops, State.sp, State.get, State.advance, State.set, State.raise,
      Registers.get_set, this]
  | push _ | call _ | ret =>
    simp [Instruction.pushes, Instruction.pops, State.sp, State.get, State.advance, State.set, State.lower,
      State.raise, State.setTop, Registers.get_set]
  | _ => rfl

/-- Memory changes in the cell that a pushed byte takes, and in no other. -/
theorem memory (h : Effect w s i s') :
    s'.memory = if i.pushes then s.memory.write (s.sp - 1) s'.top else s.memory := by
  cases h <;> simp [Instruction.pushes, State.get, State.advance, State.set, State.top, Memory.read_write,
    State.lower, State.raise, State.setTop, Registers.get_set, State.sp]

/-- An instruction that does not jump goes on to the next one. -/
theorem pc (h : Effect w s i s') (hi : i.jumps = false) : s'.pc = s.next w.op := by
  cases h <;> first | rfl | contradiction

/-- Only a comparison sets the flags. -/
theorem flags (h : Effect w s i s') (hi : i ≠ .cmp) : s'.flags = s.flags := by
  cases h <;> first | rfl | contradiction

/-- Only the instruction to halt halts. -/
theorem halted (h : Effect w s i s') : s'.halted = (s.halted || i = .hlt) := by
  cases h <;> simp [State.advance, State.set, State.lower, State.raise, State.setTop]

/-- Only the instruction to print leaves something to write out. -/
theorem printed (h : Effect w s i s') (hi : i ≠ .prn) : s'.printed = s.printed := by
  cases h <;> first | rfl | contradiction

end Effect
end ByteMachine
