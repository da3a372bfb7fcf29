import ByteMachine.Isa.Instruction
import ByteMachine.Isa.State
import ByteMachine.Isa.Trap

/-!
# Execution

`execute i w s` is what instruction `i` makes of state `s` when it stands in memory as the word `w`. Register operands
are checked before anything else, the first one first. The word is not required to start with the opcode of `i`: how
far the program counter moves and what the arithmetic unit computes depend on the opcode in the word alone.
-/

namespace ByteMachine

/-- The register that an operand names, or a trap. -/
def operand (index : Byte) : Except Trap Register :=
  match Register.ofByte? index with
  | some r => .ok r
  | none => .error (.invalidRegister index)

/-- Add, multiply or compare, as the opcode says; sums and products replace the first operand. -/
def compute (op : Opcode) (x y : Register) (s : State) : Except Trap State :=
  match Instruction.decode op with
  | some .add => .ok ((s.set x (s.get x + s.get y)).advance op)
  | some .mul => .ok ((s.set x (s.get x * s.get y)).advance op)
  | some .cmp => .ok ({ s with flags := .ofComparison (s.get x) (s.get y) }.advance op)
  | _ => .error (.unsupportedOperation op)

def execute (i : Instruction) (w : Word) (s : State) : Except Trap State :=
  match i with
  | .ldi => do
    let r ← operand w.a
    return (s.set r w.b).advance w.op
  | .prn => do
    let r ← operand w.a
    return { s with printed := some (s.get r) }.advance w.op
  | .hlt => return { s with halted := true }.advance w.op
  | .add | .mul | .cmp => do
    let x ← operand w.a
    let y ← operand w.b
    compute w.op x y s
  | .push => do
    let r ← operand w.a
    -- The pushed value is read after the stack pointer has moved.
    return (s.lower.setTop (s.lower.get r)).advance w.op
  | .pop => do
    let r ← operand w.a
    return (s.set r s.top).raise.advance w.op
  | .call => do
    let r ← operand w.a
    return { s.lower.setTop (s.next w.op) with pc := s.lower.get r }
  | .ret => return { s.raise with pc := s.top }
  | .jmp => do
    let r ← operand w.a
    return { s with pc := s.get r }
  | .jeq => do
    let r ← operand w.a
    return { s with pc := if s.flags.isEqual then s.get r else s.next w.op }
  | .jne => do
    let r ← operand w.a
    return { s with pc := if s.flags.isEqual then s.next w.op else s.get r }

theorem operand_eq_ok_iff {index : Byte} {r : Register} : operand index = .ok r ↔ index.toNat = r.val := by
  rw [operand, ← Register.ofByte?_eq_some_iff]
  cases Register.ofByte? index <;> simp

theorem operand_eq_error_iff {index : Byte} {t : Trap} :
    operand index = .error t ↔ 8 ≤ index.toNat ∧ t = .invalidRegister index := by
  rw [operand, ← Register.ofByte?_eq_none_iff]
  cases Register.ofByte? index <;> simp [eq_comm]

end ByteMachine
