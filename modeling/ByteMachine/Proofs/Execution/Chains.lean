import ByteMachine.Proofs.Execution.Arithmetic
import ByteMachine.Proofs.Execution.Calls

/-!
# What calls leave

- A call succeeds with the effect of one instruction (`Call.result_eq_ok_iff`): the one that is called, or for the
  arithmetic unit the one that the opcode of the word belongs to (`Call.operation?`). So what one call does to a part of
  the state is what the instruction does to it.
- If a call either writes a part of the state or leaves it alone, then after some calls that part is what the last call
  has written that wrote it (`State.after_eq_last?`).

`last_call_decides` puts this together.
-/

namespace ByteMachine

namespace Call

/-- The instruction whose effect the call has if it succeeds. -/
def operation? (c : Call) : Option Instruction :=
  if c.instruction.computes then c.word.op.operation? else some c.instruction

/-- The value that a call prints, if it is one of the instruction to print that succeeds. -/
def prints? (c : Call) (s : State) : Option Byte :=
  if c.instruction = .prn then (Register.ofByte? c.word.a).map s.get else none

/-- The values that a call compares, if it is one of the arithmetic unit that succeeds under the opcode to compare. -/
def compares? (c : Call) (s : State) : Option (Byte × Byte) :=
  if c.operation? = some .cmp then
    match Register.ofByte? c.word.a, Register.ofByte? c.word.b with
    | some x, some y => some (s.get x, s.get y)
    | _, _ => none
  else none

/-- A call that succeeds assigns the program counter from a register or from the stack. -/
def jumps (c : Call) (s : State) : Bool :=
  match c.instruction with
  | .call | .ret | .jmp => true
  | .jeq => s.flags.isEqual
  | .jne => !s.flags.isEqual
  | _ => false

end Call

namespace State

/-- Some calls, each one with the state in which it is made. -/
def made (s : State) : List Call → List (Call × State)
  | [] => []
  | c :: calls => (c, s) :: (c.leave s).made calls

/-- What the last of some calls yields that yields anything. -/
def last? {α : Type} (yields : Call → State → Option α) (s : State) (calls : List Call) : Option α :=
  ((s.made calls).filterMap fun p => yields p.1 p.2).getLast?

end State

variable {c : Call} {i : Instruction} {s s' : State}

/-! ## One call -/

namespace Call

/-- **A call succeeds with the effect of one instruction.** -/
theorem result_eq_ok_iff : c.result s = .ok s' ↔ ∃ i, c.operation? = some i ∧ Effect c.word s i s' := by
  rw [result, operation?]
  by_cases hi : c.instruction.computes
  · rw [execute_of_computes hi, arithmetic_eq_ok_iff, if_pos hi]
  · rw [execute_eq_ok_iff_of_suits fun h => absurd h hi, if_neg hi]
    simp

/-- Outside of the arithmetic unit a call does what its instruction does. -/
theorem operation?_eq_some_iff (hi : i.computes = false) : c.operation? = some i ↔ c.instruction = i := by
  rw [operation?]
  split
  · rename_i hc
    have hne : c.instruction ≠ i := by
      rintro rfl
      rw [hi] at hc
      contradiction
    simp [Opcode.operation?_eq_some_iff, hi, hne]
  · simp

theorem operation?_eq_cmp_iff :
    c.operation? = some .cmp ↔ c.instruction.computes ∧ c.word.op = Instruction.opcode .cmp := by
  have hcmp : Instruction.computes .cmp = true := rfl
  rw [operation?]
  split
  · rename_i hc
    simp only [Opcode.operation?_eq_some_iff, hcmp, hc, true_and]
  · rename_i hc
    have hne : c.instruction ≠ .cmp := fun h => hc (h ▸ hcmp)
    simp [hc, hne]

theorem leave_of_ok (h : c.result s = .ok s') : c.leave s = s' := by
  rw [leave, h]

theorem leave_of_error {trap : Trap} (h : c.result s = .error trap) : c.leave s = s := by
  rw [leave, h]

/-- A call to halt succeeds, and no other call halts. -/
theorem halted_leave (c : Call) (s : State) :
    (c.leave s).halted = (s.halted || decide (c.instruction = .hlt)) := by
  cases h : c.result s with
  | ok s' =>
    obtain ⟨i, hi, heffect⟩ := result_eq_ok_iff.1 h
    have hhlt : i = .hlt ↔ c.instruction = .hlt := by
      rw [← operation?_eq_some_iff (i := .hlt) rfl, hi, Option.some.injEq]
    rw [leave_of_ok h, heffect.halted]
    simp only [hhlt]
  | error trap =>
    have hne : c.instruction ≠ .hlt := by
      intro hhlt
      rw [result, hhlt] at h
      cases h
    rw [leave_of_error h]
    simp [hne]

theorem prints?_eq_some_iff {value : Byte} : c.prints? s = some value ↔
    c.instruction = .prn ∧ (∃ s', c.result s = .ok s') ∧
      ∃ r : Register, c.word.a.toNat = r.val ∧ s.get r = value := by
  simp only [prints?, Option.ite_none_right_eq_some, Option.map_eq_some_iff, Register.ofByte?_eq_some_iff]
  refine and_congr_right fun hprn => ?_
  constructor
  · rintro ⟨r, hr, hvalue⟩
    have hok := result_eq_ok_iff.2 ⟨_, (operation?_eq_some_iff rfl).2 hprn, Effect.prn (s := s) hr⟩
    exact ⟨⟨_, hok⟩, r, hr, hvalue⟩
  · rintro ⟨_, r, hr, hvalue⟩
    exact ⟨r, hr, hvalue⟩

/-- What a call leaves to be written is what it prints, or what was there. -/
theorem printed_leave (c : Call) (s : State) : (c.leave s).printed = (c.prints? s).or s.printed := by
  cases h : c.result s with
  | ok s' =>
    obtain ⟨i, hi, heffect⟩ := result_eq_ok_iff.1 h
    rw [leave_of_ok h]
    by_cases hprn : i = .prn
    · subst hprn
      cases heffect with
      | prn hr =>
        have hprints := prints?_eq_some_iff.2 ⟨(operation?_eq_some_iff rfl).1 hi, ⟨_, h⟩, _, hr, rfl⟩
        rw [hprints]
        rfl
    · have hne : c.instruction ≠ .prn := by
        intro hc
        rw [(operation?_eq_some_iff (i := .prn) rfl).2 hc] at hi
        exact hprn (Option.some.inj hi).symm
      rw [heffect.printed hprn, prints?, if_neg hne, Option.none_or]
  | error trap =>
    have hnone : c.prints? s = none := by
      refine Option.eq_none_iff_forall_ne_some.2 fun value hvalue => ?_
      obtain ⟨_, ⟨s', hok⟩, _⟩ := prints?_eq_some_iff.1 hvalue
      rw [h] at hok
      cases hok
    rw [leave_of_error h, hnone, Option.none_or]

theorem compares?_eq_some_iff {u v : Byte} : c.compares? s = some (u, v) ↔
    c.instruction.computes ∧ c.word.op = Instruction.opcode .cmp ∧ (∃ s', c.result s = .ok s') ∧
      ∃ x y : Register, c.word.a.toNat = x.val ∧ c.word.b.toNat = y.val ∧ s.get x = u ∧ s.get y = v := by
  rw [← and_assoc, ← operation?_eq_cmp_iff]
  constructor
  · intro h
    rw [compares?, Option.ite_none_right_eq_some] at h
    obtain ⟨hop, h⟩ := h
    split at h
    · rename_i x y hx hy
      rw [Option.some.injEq, Prod.mk.injEq] at h
      obtain ⟨hu, hv⟩ := h
      rw [Register.ofByte?_eq_some_iff] at hx hy
      have hok := result_eq_ok_iff.2 ⟨_, hop, Effect.cmp (s := s) hx hy⟩
      exact ⟨hop, ⟨_, hok⟩, x, y, hx, hy, hu, hv⟩
    · contradiction
  · rintro ⟨hop, _, x, y, hx, hy, rfl, rfl⟩
    rw [compares?, if_pos hop, Register.ofByte?_eq_some_iff.2 hx, Register.ofByte?_eq_some_iff.2 hy]

/-- The flags that a call leaves tell how its comparison came out, or are as they were. -/
theorem flags_leave (c : Call) (s : State) :
    (c.leave s).flags = (c.compares? s).elim s.flags fun values => .ofComparison values.1 values.2 := by
  cases h : c.result s with
  | ok s' =>
    obtain ⟨i, hi, heffect⟩ := result_eq_ok_iff.1 h
    rw [leave_of_ok h]
    by_cases hcmp : i = .cmp
    · subst hcmp
      obtain ⟨hc, hop⟩ := operation?_eq_cmp_iff.1 hi
      cases heffect with
      | cmp hx hy =>
        have hcompares := compares?_eq_some_iff.2 ⟨hc, hop, ⟨_, h⟩, _, _, hx, hy, rfl, rfl⟩
        rw [hcompares]
        rfl
    · have hnone : c.compares? s = none := if_neg fun hop => hcmp (Option.some.inj (hi.symm.trans hop))
      rw [heffect.flags hcmp, hnone, Option.elim_none]
  | error trap =>
    have hnone : c.compares? s = none := by
      refine Option.eq_none_iff_forall_ne_some.2 fun values hvalues => ?_
      obtain ⟨_, _, ⟨s', hok⟩, _⟩ := compares?_eq_some_iff.1 hvalues
      rw [h] at hok
      cases hok
    rw [leave_of_error h, hnone, Option.elim_none]

/-- **A call goes on** by the length that the opcode of its word tells, unless it jumps; then it goes to the value of a
register or to the top of the stack. -/
theorem pc_of_result (h : c.result s = .ok s') :
    (c.jumps s = false → s'.pc = s.next c.word.op) ∧
      (c.jumps s = true → (c.instruction = .ret ∧ s'.pc = s.top) ∨
        ∃ r : Register, c.word.a.toNat = r.val ∧
          s'.pc = if c.instruction = .call then s.lower.get r else s.get r) := by
  obtain ⟨i, hi, heffect⟩ := result_eq_ok_iff.1 h
  by_cases hc : c.instruction.computes
  · rw [operation?, if_pos hc] at hi
    have hcomputes := (Opcode.operation?_eq_some_iff.1 hi).1
    have hpc : i.jumps = false := by cases i <;> first | rfl | contradiction
    have hjumps : c.jumps s = false := by
      rw [jumps]
      cases hinstruction : c.instruction <;> simp_all [Instruction.computes]
    simp [heffect.pc hpc, hjumps]
  · rw [operation?, if_neg hc, Option.some.injEq] at hi
    rw [jumps, hi]
    cases heffect with
    | call hr | jmp hr => exact ⟨nofun, fun _ => .inr ⟨_, hr, rfl⟩⟩
    | ret => exact ⟨nofun, fun _ => .inl ⟨rfl, rfl⟩⟩
    | jeq hr =>
      constructor
      · intro hequal
        exact if_neg (Bool.eq_false_iff.1 hequal)
      · intro hequal
        exact .inr ⟨_, hr, if_pos hequal⟩
    | jne hr =>
      constructor
      · intro hequal
        exact if_pos (by simpa using hequal)
      · intro hequal
        exact .inr ⟨_, hr, if_neg (by simpa using hequal)⟩
    | _ => exact ⟨fun _ => rfl, nofun⟩

end Call

/-! ## Calls one after the other -/

namespace State

/-- No call halts but one to halt. -/
theorem halted_after (s : State) (calls : List Call) :
    (s.after calls).halted = true ↔ s.halted = true ∨ ∃ c ∈ calls, c.instruction = .hlt := by
  induction calls generalizing s with
  | nil => simp [after]
  | cons c calls ih =>
    rw [after, List.foldl_cons]
    refine (ih (c.leave s)).trans ?_
    rw [c.halted_leave]
    simp [or_assoc]

/-- **The last call that writes a part of the state decides it.** If every call leaves in this part what it yields, and
what was there if it yields nothing, then so do some calls of which the last one counts that yields anything. -/
theorem after_eq_last? {α β : Type} {part : State → β} {value : α → β} {yields : Call → State → Option α}
    (h : ∀ c s, part (c.leave s) = (yields c s).elim (part s) value) (s : State) (calls : List Call) :
    part (s.after calls) = (s.last? yields calls).elim (part s) value := by
  induction calls generalizing s with
  | nil => rfl
  | cons c calls ih =>
    rw [after, List.foldl_cons]
    refine (ih (c.leave s)).trans ?_
    rw [h, last?, last?, made, List.filterMap_cons]
    cases yields c s with
    | none => rfl
    | some value =>
      dsimp only
      rw [List.getLast?_cons]
      cases (((c.leave s).made calls).filterMap fun p => yields p.1 p.2).getLast? <;> rfl

end State

/-- **The last call decides.** Calls are made one after the other, with any instructions under any opcodes, and one that
fails leaves the state as it was. Afterwards the state has halted iff it had before or one of the calls is to halt; what
waits to be written is the value of the register that the last successful call to print has read, if there is one; and
the flags tell how the last successful call of the arithmetic unit under the opcode to compare came out, if there is
one.

The arithmetic unit goes by the opcode alone. It succeeds with the effect of the instruction of the opcode; it fails for
the first operand that names no register, or else for an opcode that is none of its three. A call that succeeds goes on
by the length that its opcode tells, which is four bytes at most, unless it goes to the value of a register or to the
top of the stack. -/
theorem last_call_decides (s : State) (calls : List Call) :
    ((s.after calls).halted = true ↔ s.halted = true ∨ ∃ c ∈ calls, c.instruction = .hlt) ∧
    (s.after calls).printed = (s.last? Call.prints? calls).or s.printed ∧
    (s.after calls).flags =
      ((s.last? Call.compares? calls).elim s.flags fun values => .ofComparison values.1 values.2) ∧
    (∀ (c : Call) s value, c.prints? s = some value ↔
      c.instruction = .prn ∧ (∃ s', c.result s = .ok s') ∧
        ∃ r : Register, c.word.a.toNat = r.val ∧ s.get r = value) ∧
    (∀ (c : Call) s u v, c.compares? s = some (u, v) ↔
      c.instruction.computes ∧ c.word.op = Instruction.opcode .cmp ∧ (∃ s', c.result s = .ok s') ∧
        ∃ x y : Register, c.word.a.toNat = x.val ∧ c.word.b.toNat = y.val ∧ s.get x = u ∧ s.get y = v) ∧
    (∀ (c : Call) s, c.instruction.computes →
      (∀ s', c.result s = .ok s' ↔
        ∃ i : Instruction, i.computes ∧ c.word.op = i.opcode ∧ Effect c.word s i s') ∧
      (∀ op, c.result s = .error (.unsupportedOperation op) ↔ c.word.a.toNat < 8 ∧ c.word.b.toNat < 8 ∧
        (∀ i : Instruction, i.computes → c.word.op ≠ i.opcode) ∧ op = c.word.op) ∧
      ∀ index, c.result s = .error (.invalidRegister index) ↔
        (8 ≤ c.word.a.toNat ∧ index = c.word.a) ∨
          (c.word.a.toNat < 8 ∧ 8 ≤ c.word.b.toNat ∧ index = c.word.b)) ∧
    ∀ (c : Call) s s', c.result s = .ok s' →
      (c.jumps s = false →
        s'.pc.toNat = (s.pc.toNat + (1 + c.word.op.toNat / 64)) % 256 ∧ 1 + c.word.op.toNat / 64 ≤ 4) ∧
      (c.jumps s = true → (c.instruction = .ret ∧ s'.pc = s.top) ∨
        ∃ r : Register, c.word.a.toNat = r.val ∧
          s'.pc = if c.instruction = .call then s.lower.get r else s.get r) := by
  refine ⟨s.halted_after calls, ?_, ?_, fun _ _ _ => Call.prints?_eq_some_iff,
    fun _ _ _ _ => Call.compares?_eq_some_iff, ?_, ?_⟩
  · have hprinted : ∀ (c : Call) s, (c.leave s).printed = (c.prints? s).elim s.printed some := by
      intro c s
      rw [c.printed_leave]
      cases c.prints? s <;> rfl
    rw [State.after_eq_last? hprinted]
    cases s.last? Call.prints? calls <;> rfl
  · exact State.after_eq_last? Call.flags_leave s calls
  · intro c s hc
    have hresult : c.result s = arithmetic c.word s := congrFun (congrFun (execute_of_computes hc) c.word) s
    rw [hresult]
    refine ⟨fun s' => ?_, fun op => ?_, fun index => ?_⟩
    · simp only [arithmetic_eq_ok_iff, Opcode.operation?_eq_some_iff, and_assoc]
    · rw [arithmetic_eq_error_iff, Opcode.operation?_eq_none_iff]
      simp
    · rw [arithmetic_eq_error_iff]
      simp
  · intro c s s' h
    obtain ⟨hnext, hjump⟩ := Call.pc_of_result h
    refine ⟨fun hjumps => ⟨?_, ?_⟩, hjump⟩
    · rw [hnext hjumps, s.toNat_next c.word.op]
    · have hop := c.word.op.toNat_lt
      omega

/-- Calls under opcodes of other instructions. The first one is to add and compares, the fourth one is to compare and
adds, the second one goes on by four bytes, the third one has no operation, and the fifth one names no register. -/
def foreignCalls : List Call :=
  [⟨.add, ⟨0xA7, 0, 7⟩⟩, ⟨.prn, ⟨0xC0, 7, 0⟩⟩, ⟨.mul, ⟨0x45, 0, 1⟩⟩, ⟨.cmp, ⟨0xA0, 1, 7⟩⟩, ⟨.prn, ⟨0x47, 8, 0⟩⟩]

/-- Nothing halts; the value of the second call replaces the one that was there, and the flags are those of the
first. -/
theorem last_call_decides_foreignCalls :
    let s := { State.initial with printed := some 1 }
    (s.after foreignCalls).halted = false ∧ (s.after foreignCalls).printed = some 0xF4 ∧
      (s.after foreignCalls).flags = .compared .lt ∧
      Call.result ⟨.mul, ⟨0x45, 0, 1⟩⟩ s = .error (.unsupportedOperation 0x45) ∧
      ∃ s', Call.result ⟨.prn, ⟨0xC0, 7, 0⟩⟩ s = .ok s' ∧ s'.pc.toNat = 4 := by
  intro s
  obtain ⟨hhalted, hprinted, hflags, _, _, hunit, hpc⟩ := last_call_decides s foreignCalls
  refine ⟨?_, ?_, ?_, ?_, _, rfl, ?_⟩
  · rw [Bool.eq_false_iff, Ne, hhalted]
    decide
  · rw [hprinted]
    decide
  · rw [hflags]
    decide
  · refine ((hunit ⟨.mul, ⟨0x45, 0, 1⟩⟩ s rfl).2.1 0x45).2 ⟨by decide, by decide, fun i hi => ?_, rfl⟩
    cases i <;> first | contradiction | decide
  · exact ((hpc ⟨.prn, ⟨0xC0, 7, 0⟩⟩ s _ rfl).1 rfl).1

end ByteMachine
