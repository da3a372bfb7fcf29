import ByteMachine.Isa.State

/-!
# Traces

A trace is what a line of the log shows of a state: the program counter, the three bytes there, and all registers.
-/

namespace ByteMachine

structure Trace where
  pc : Byte
  word : Word
  registers : Registers
deriving DecidableEq

def State.trace (s : State) : Trace := ⟨s.pc, s.fetch, s.registers⟩

/-- The fields in fixed columns, each byte as two upper-case hexadecimal digits. -/
def Trace.text (t : Trace) : String :=
  "TRACE: " ++ t.pc.upperHex ++ " | " ++ t.word.op.upperHex ++ " " ++ t.word.a.upperHex ++ " " ++ t.word.b.upperHex ++
    " |" ++ String.join (t.registers.toList.map fun value => " " ++ value.upperHex)

end ByteMachine
