import ByteMachine.Proofs.Execution.Effect

/-!
# The arithmetic unit

The instructions that add, multiply and compare are one function (`arithmetic`, `execute_of_computes`): it goes by the
opcode in the word and not by the instruction. Under the opcode of one of the three it has the effect of that one
(`arithmetic_eq_ok_iff`). It fails for the first operand that names no register, and for an opcode that is none of the
three (`arithmetic_eq_error_iff`).
-/

namespace ByteMachine

/-- Both operands are registers, and the opcode says what is computed of them. -/
def arithmetic (w : Word) (s : State) : Except Trap State := do
  let x ← operand w.a
  let y ← operand w.b
  compute w.op x y s

/-- What the arithmetic unit computes under an opcode, if it has an operation for it. -/
def Opcode.operation? (op : Opcode) : Option Instruction := (Instruction.decode op).filter Instruction.computes

variable {w : Word} {i : Instruction} {s s' : State} {op : Opcode}

theorem execute_of_computes (hi : i.computes) : execute i = arithmetic := by
  cases i <;> first | rfl | contradiction

theorem Opcode.operation?_eq_some_iff : op.operation? = some i ↔ i.computes ∧ op = i.opcode := by
  rw [operation?, Option.filter_eq_some_iff, Instruction.decode_eq_some_iff, and_comm, eq_comm (a := op)]

theorem Opcode.operation?_eq_none_iff : op.operation? = none ↔ ∀ i : Instruction, i.computes → op ≠ i.opcode := by
  simp only [Option.eq_none_iff_forall_ne_some, Ne, operation?_eq_some_iff, not_and]

/-- Without an operation for the opcode nothing is computed. -/
theorem compute_of_operation?_eq_none (h : op.operation? = none) (x y : Register) (s : State) :
    compute op x y s = .error (.unsupportedOperation op) := by
  rw [compute]
  cases hd : Instruction.decode op with
  | none => rfl
  | some i =>
    have hi : ¬ i.computes := by simpa [Opcode.operation?, hd] using h
    cases i <;> first | rfl | exact absurd rfl hi

/-- **The arithmetic unit succeeds** with the effect of the instruction that the opcode belongs to. -/
theorem arithmetic_eq_ok_iff : arithmetic w s = .ok s' ↔ ∃ i, w.op.operation? = some i ∧ Effect w s i s' := by
  cases h : w.op.operation? with
  | none =>
    simp only [arithmetic, bind_eq_ok_iff, compute_of_operation?_eq_none h]
    simp
  | some i =>
    obtain ⟨hi, hop⟩ := Opcode.operation?_eq_some_iff.1 h
    have hd : Instruction.decode w.op = some i := Instruction.decode_eq_some_iff.2 hop.symm
    rw [← execute_of_computes hi, execute_eq_ok_iff hd]
    simp

/-- With two registers the arithmetic unit fails iff it has no operation for the opcode. -/
theorem arithmetic_eq_error_iff_of_registers {x y : Register} (hx : w.a.toNat = x.val) (hy : w.b.toNat = y.val)
    {trap : Trap} : arithmetic w s = .error trap ↔ w.op.operation? = none ∧ trap = .unsupportedOperation w.op := by
  have hcompute : arithmetic w s = compute w.op x y s := by
    rw [arithmetic, operand_eq_ok_iff.2 hx, operand_eq_ok_iff.2 hy]
    rfl
  cases h : w.op.operation? with
  | none =>
    rw [hcompute, compute_of_operation?_eq_none h]
    simp [eq_comm]
  | some i =>
    obtain ⟨hi, hop⟩ := Opcode.operation?_eq_some_iff.1 h
    have hvalid : w.Valid i := ⟨fun _ => hx ▸ x.isLt, fun _ => hy ▸ y.isLt⟩
    obtain ⟨s', heffect⟩ := exists_effect (s := s) hvalid
    rw [arithmetic_eq_ok_iff.2 ⟨i, h, heffect⟩]
    simp

/-- **The arithmetic unit fails** for the first operand that names no register, or else for the opcode. -/
theorem arithmetic_eq_error_iff {trap : Trap} : arithmetic w s = .error trap ↔
    (8 ≤ w.a.toNat ∧ trap = .invalidRegister w.a) ∨
    (w.a.toNat < 8 ∧ 8 ≤ w.b.toNat ∧ trap = .invalidRegister w.b) ∨
    (w.a.toNat < 8 ∧ w.b.toNat < 8 ∧ w.op.operation? = none ∧ trap = .unsupportedOperation w.op) := by
  by_cases ha : w.a.toNat < 8
  · have hoperand : operand w.a = .ok ⟨w.a.toNat, ha⟩ := operand_eq_ok_iff.2 rfl
    by_cases hb : w.b.toNat < 8
    · rw [arithmetic_eq_error_iff_of_registers (x := ⟨_, ha⟩) (y := ⟨_, hb⟩) rfl rfl]
      simp [ha, hb, Nat.not_le.2]
    · have hfails : arithmetic w s = .error (.invalidRegister w.b) := by
        rw [arithmetic, hoperand]
        exact bind_eq_error (x := operand w.b) (operand_eq_error_iff.2 ⟨Nat.le_of_not_lt hb, rfl⟩)
      rw [hfails, Except.error.injEq]
      simp [ha, hb, Nat.not_le.2, Nat.le_of_not_lt, eq_comm]
  · have hfails : arithmetic w s = .error (.invalidRegister w.a) :=
      bind_eq_error (operand_eq_error_iff.2 ⟨Nat.le_of_not_lt ha, rfl⟩)
    rw [hfails, Except.error.injEq]
    simp [ha, Nat.le_of_not_lt, eq_comm]

end ByteMachine
