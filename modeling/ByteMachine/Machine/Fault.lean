import ByteMachine.Isa.Trap
import ByteMachine.Machine.Sink

/-!
# Faults

Why a cycle of the machine fails. Every fault aborts the machine.
-/

namespace ByteMachine

inductive Fault where
  /-- The byte at the program counter is no opcode. -/
  | invalidInstruction (op : Opcode) (pc : Byte)
  /-- The instruction cannot be executed. -/
  | trapped (trap : Trap)
  /-- What the instruction wrote did not get through. -/
  | output (refusal : Refusal)
deriving DecidableEq, Repr

def Fault.message : Fault → String
  | invalidInstruction op pc => "not a valid instruction: " ++ op.marked ++ " at " ++ pc.marked
  | trapped trap => trap.message
  | output refusal => "failed to write output: " ++ refusal.message

end ByteMachine
