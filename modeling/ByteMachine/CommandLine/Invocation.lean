/-!
# Invocations

The command takes the path of one program image. How its arguments are parsed is left open: a parser makes of them what
there is to do, and all that the command relies on is that a single argument is the path, unless it is empty or starts
with a hyphen (`ArgumentParser.TakesPath`).
-/

namespace ByteMachine

/-- What the arguments of the command come to. -/
inductive Invocation where
  /-- To run the program in this file. -/
  | run (path : String)
  /-- To write these texts and leave with this code. -/
  | leave (code : UInt8) (stdout stderr : String)
deriving DecidableEq, Repr

abbrev ArgumentParser := List String → Invocation

/-- A single argument that is neither empty nor starts with a hyphen is the path of the program. -/
def ArgumentParser.TakesPath (parser : ArgumentParser) : Prop :=
  ∀ path : String, path ≠ "" → path.toList.head? ≠ some '-' → parser [path] = .run path

end ByteMachine
