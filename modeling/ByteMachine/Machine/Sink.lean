/-!
# Sinks

A sink collects the text that a machine writes. A bounded sink takes a given number of characters in all; of a text
that is too long it takes what still has room and turns the rest away. All that a machine writes is ASCII, so
characters are bytes.
-/

namespace ByteMachine

/-- How a sink turns text away. -/
inductive Refusal where
  /-- It says that it is full. -/
  | full
  /-- It takes nothing and says so. -/
  | nothingTaken
deriving DecidableEq, Repr

def Refusal.message : Refusal → String
  | full => "sink full"
  | nothingTaken => "failed to write whole buffer"

structure Sink where
  /-- All text taken so far. -/
  text : String := ""
  /-- How many characters the sink takes in all, and how it refuses the next one. -/
  bound : Option (Nat × Refusal) := none
deriving DecidableEq

namespace Sink

/-- Takes as much of the text as there is room for, and refuses if that is not all of it. -/
def write (s : Sink) (text : String) : Sink × Option Refusal :=
  match s.bound with
  | none => ({ s with text := s.text ++ text }, none)
  | some (limit, refusal) =>
    let room := limit - s.text.length
    if text.length ≤ room then ({ s with text := s.text ++ text }, none)
    else ({ s with text := s.text ++ String.ofList (text.toList.take room) }, some refusal)

@[simp] theorem write_bound (s : Sink) (text : String) : (s.write text).1.bound = s.bound := by
  unfold write
  split
  · rfl
  · dsimp only
    split <;> rfl

theorem write_of_unbounded {s : Sink} (h : s.bound = none) (text : String) :
    s.write text = ({ s with text := s.text ++ text }, none) := by
  simp [write, h]

end Sink
end ByteMachine
