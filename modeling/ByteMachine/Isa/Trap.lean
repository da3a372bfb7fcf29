import ByteMachine.Isa.Opcode

/-!
# Traps

Why an instruction cannot be executed.
-/

namespace ByteMachine

inductive Trap where
  /-- The arithmetic unit has no operation for this opcode. -/
  | unsupportedOperation (op : Opcode)
  /-- An operand is not the number of a register. -/
  | invalidRegister (index : Byte)
deriving DecidableEq, Repr

def Trap.message : Trap → String
  | unsupportedOperation op => "unsupported ALU operation: " ++ op.marked
  | invalidRegister index => "register index " ++ index.decimal ++ " out of bounds"

end ByteMachine
