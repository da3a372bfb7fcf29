import ByteMachine.Isa.Execution

/-!
# Calls of instructions

A call executes an instruction with a word that need not start with the opcode of the instruction. Calls are made one
after the other, each on the state that the one before has left.

- `State.results` and `State.after` go on after a call that traps, which leaves the state as it was.
- `State.chain` stops there.
-/

namespace ByteMachine

/-- An instruction with the word that it is executed with. -/
structure Call where
  instruction : Instruction
  word : Word
deriving DecidableEq

namespace Call

def result (c : Call) (s : State) : Except Trap State := execute c.instruction c.word s

/-- The state that a call leaves. -/
def leave (c : Call) (s : State) : State :=
  match c.result s with
  | .ok s' => s'
  | .error _ => s

end Call

namespace State

/-- The result of each of some calls. -/
def results (s : State) : List Call → List (Except Trap State)
  | [] => []
  | c :: calls => c.result s :: (c.leave s).results calls

/-- The state after some calls. -/
def after (s : State) (calls : List Call) : State := calls.foldl (fun s c => c.leave s) s

/-- The state after some calls, if none of them traps, or else the first trap. -/
def chain (s : State) (calls : List Call) : Except Trap State := calls.foldlM (fun s c => c.result s) s

end State
end ByteMachine
