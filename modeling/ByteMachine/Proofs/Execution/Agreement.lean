import ByteMachine.Proofs.Execution.Effect

/-!
# What an instruction looks at

- An instruction looks at its operands only: two words that agree on the bytes that belong to it have the same effects
  and are refused for the same operands (`Effect.congr_word`, `Word.Agree.refused?_eq`).
- Of memory it looks at the top of the stack, and only if it pops. `poke x v` puts `v` into the cell `x`; an instruction
  that writes the cell leaves the same state (`Effect.poke_of_pushes`), any other one the same state but for the cell
  (`Effect.poke`).
-/

namespace ByteMachine

/-- Two words agree on the bytes that belong to an instruction. -/
structure Word.Agree (w w' : Word) (i : Instruction) : Prop where
  op : w.op = w'.op
  a : 1 < i.opcode.length.toNat → w.a = w'.a
  b : 2 < i.opcode.length.toNat → w.b = w'.b

/-- Puts a byte into a cell of memory. -/
def State.poke (s : State) (x v : Byte) : State := { s with memory := s.memory.write x v }

variable {w w' : Word} {i : Instruction} {s s' : State} {x : Byte}

/-- Operands that are registers belong to the instruction. -/
theorem Instruction.registerCount_lt_length (i : Instruction) : i.registerCount < i.opcode.length.toNat := by
  cases i <;> decide

/-- The same operand is refused. -/
theorem Word.Agree.refused?_eq (h : w.Agree w' i) : w.refused? i = w'.refused? i := by
  have hlt := i.registerCount_lt_length
  unfold Word.refused?
  by_cases h₁ : 1 ≤ i.registerCount
  · rw [h.a (by omega)]
    by_cases h₂ : 2 ≤ i.registerCount
    · rw [h.b (by omega)]
    · simp [h₂]
  · have h₂ : ¬ 2 ≤ i.registerCount := by omega
    simp [h₁, h₂]

/-- The same effects are had. -/
theorem Effect.congr_word (h : Effect w s i s') (hw : w.Agree w' i) : Effect w' s i s' := by
  obtain ⟨op, a, b⟩ := w
  obtain ⟨op', a', b'⟩ := w'
  obtain ⟨hop, ha, hb⟩ := hw
  dsimp only at hop ha hb
  subst hop
  cases h with
  | hlt => exact .hlt
  | ret => exact .ret
  | ldi hr =>
    obtain rfl := ha (by decide)
    obtain rfl := hb (by decide)
    exact .ldi hr
  | add hx hy =>
    obtain rfl := ha (by decide)
    obtain rfl := hb (by decide)
    exact .add hx hy
  | mul hx hy =>
    obtain rfl := ha (by decide)
    obtain rfl := hb (by decide)
    exact .mul hx hy
  | cmp hx hy =>
    obtain rfl := ha (by decide)
    obtain rfl := hb (by decide)
    exact .cmp hx hy
  | prn hr | push hr | pop hr | call hr | jmp hr | jeq hr | jne hr =>
    obtain rfl := ha (by decide)
    constructor
    exact hr

/-! ## Changing a cell -/

theorem State.read_poke (s : State) (x v y : Byte) :
    (s.poke x v).memory.read y = if y = x then v else s.memory.read y := s.memory.read_write x v y

/-- A byte that takes a changed cell overwrites it. -/
theorem State.setTop_lower_poke (s : State) (v u : Byte) :
    (s.poke (s.sp - 1) v).lower.setTop u = s.lower.setTop u := by
  have hsp : (s.poke (s.sp - 1) v).lower.sp = s.lower.sp := rfl
  unfold setTop
  rw [hsp, s.sp_lower]
  change { s.lower with memory := (s.memory.write (s.sp - 1) v).write (s.sp - 1) u } = _
  rw [Memory.write_write]
  rfl

/-- A byte that takes another cell leaves it changed. -/
theorem State.setTop_lower_poke_of_ne (s : State) (hx : x ≠ s.sp - 1) (v u : Byte) :
    (s.poke x v).lower.setTop u = (s.lower.setTop u).poke x v := by
  have hsp : (s.poke x v).lower.sp = s.lower.sp := rfl
  unfold setTop
  rw [hsp, s.sp_lower]
  change { s.lower with memory := (s.memory.write x v).write (s.sp - 1) u } = _
  rw [Memory.write_comm _ hx]
  rfl

/-- An instruction that writes a cell does not look at it. -/
theorem Effect.poke_of_pushes (h : Effect w s i s') (hp : i.pushes) (v : Byte) :
    Effect w (s.poke (s.sp - 1) v) i s' := by
  cases h with
  | push hr =>
    have hpush := Effect.push (s := s.poke (s.sp - 1) v) hr
    rw [State.setTop_lower_poke] at hpush
    exact hpush
  | call hr =>
    have hcall := Effect.call (s := s.poke (s.sp - 1) v) hr
    rw [State.setTop_lower_poke] at hcall
    exact hcall
  | _ => contradiction

/-- **An instruction does not look at a cell** that it does not pop: unless it writes the cell, it leaves the same state
but for the cell. -/
theorem Effect.poke (h : Effect w s i s') (hpop : i.pops → x ≠ s.sp) (hpush : i.pushes → x ≠ s.sp - 1) (v : Byte) :
    Effect w (s.poke x v) i (s'.poke x v) := by
  have htop (hp : i.pops) : (s.poke x v).top = s.top := (s.read_poke x v s.sp).trans (if_neg (hpop hp).symm)
  cases h with
  | ldi hr => exact .ldi hr
  | prn hr => exact .prn hr
  | hlt => exact .hlt
  | add hr hr' => exact .add hr hr'
  | mul hr hr' => exact .mul hr hr'
  | cmp hr hr' => exact .cmp hr hr'
  | jmp hr => exact .jmp hr
  | jeq hr => exact .jeq hr
  | jne hr => exact .jne hr
  | push hr =>
    have h := Effect.push (s := s.poke x v) hr
    rw [State.setTop_lower_poke_of_ne s (hpush rfl)] at h
    exact h
  | call hr =>
    have h := Effect.call (s := s.poke x v) hr
    rw [State.setTop_lower_poke_of_ne s (hpush rfl)] at h
    exact h
  | pop hr =>
    have h := Effect.pop (s := s.poke x v) hr
    rw [htop rfl] at h
    exact h
  | ret =>
    have h := Effect.ret (w := w) (s := s.poke x v)
    rw [htop rfl] at h
    exact h

end ByteMachine
