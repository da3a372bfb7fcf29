import ByteMachine.Isa.Instruction
import ByteMachine.Log.Trace
import ByteMachine.Text.Quoted

/-!
# Messages

The log is a list of messages. A message is the event that it reports; how severe it is and its wording follow from
that. No message of the machine is a warning (`Message.severity_lt_warn`).
-/

namespace ByteMachine

/-- How severe a message is, from the least to the most. -/
inductive Level where
  | trace
  | debug
  | info
  | warn
  | error
deriving DecidableEq, Repr

namespace Level

def name : Level → String
  | trace => "TRACE"
  | debug => "DEBUG"
  | info => "INFO"
  | warn => "WARN"
  | error => "ERROR"

def rank : Level → Nat
  | trace => 0
  | debug => 1
  | info => 2
  | warn => 3
  | error => 4

instance : LT Level := ⟨fun l l' => l.rank < l'.rank⟩

instance : LE Level := ⟨fun l l' => l.rank ≤ l'.rank⟩

instance (l l' : Level) : Decidable (l < l') := inferInstanceAs (Decidable (l.rank < l'.rank))

instance (l l' : Level) : Decidable (l ≤ l') := inferInstanceAs (Decidable (l.rank ≤ l'.rank))

theorem not_le {l l' : Level} : ¬ l ≤ l' ↔ l' < l := Nat.not_le

theorem not_lt {l l' : Level} : ¬ l < l' ↔ l' ≤ l := Nat.not_lt

end Level

inductive Message where
  /-- A line of a program image, counted from 1, that holds no literal. -/
  | skipped (number : Nat) (line : String)
  /-- A program of `size` bytes was placed in memory. -/
  | loaded (size : Nat)
  /-- An instruction is about to be executed in the state of the trace. -/
  | executing (trace : Trace) (instruction : Instruction)
  /-- The machine has halted; the next instruction would have been at `pc`. -/
  | halted (pc : Byte)
deriving DecidableEq

namespace Message

def severity : Message → Level
  | skipped .. | loaded .. => .debug
  | executing .. => .trace
  | halted .. => .info

/-- The name of the level, as it stands in the log. -/
def level (message : Message) : String := message.severity.name

def text : Message → String
  | skipped number line => "skipping line " ++ Nat.repr number ++ ": " ++ Text.quote line
  | loaded size => "loaded " ++ Nat.repr size ++ " bytes"
  | executing trace instruction => trace.text ++ " " ++ instruction.mnemonic
  | halted pc => "halted at " ++ pc.marked

theorem severity_lt_warn (message : Message) : message.severity < .warn := by
  cases message <;> rw [severity] <;> decide

end Message
end ByteMachine
