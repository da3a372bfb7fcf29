import ByteMachine.CommandLine.Invocation
import ByteMachine.CommandLine.Logger

/-!
# A parser and a logger

The parser and the logger that the command is built with. Nothing that holds of the command hangs on this choice: it
holds of every parser that takes a path and of every lawful logger, of which these are an instance each
(`ArgumentParser.plain_takesPath`, `Logger.plain_lawful`).

Arguments are read from left to right: the first one that settles the matter decides. After `--` every argument is a
path, before it a hyphen with more after it starts an option.
-/

namespace ByteMachine

namespace Invocation

def usage : String := "Usage: ls8 <PROGRAM>\n"

/-- The answer to a request for help. -/
def help : Invocation :=
  .leave 0
    ("Runs an LS-8 program image\n\n" ++ usage ++
      "\nArguments:\n  <PROGRAM>  Path to a program image of base-2 byte literals, one per line\n" ++
      "\nOptions:\n  -h, --help  Print help\n")
    ""

/-- The answer to arguments that make no sense. -/
def misuse : Invocation :=
  .leave 2 ""
    ("error: expected the path of one program image\n\n" ++ usage ++ "\nFor more information, try '--help'.\n")

/-- Takes a path after the one that was given already, if any. -/
def takePath (given : Option String) (path : String) : Option String :=
  if path = "" || given.isSome then none else some path

/-- The arguments after `--`. -/
def ofPaths (given : Option String) : List String → Invocation
  | [] => match given with
    | some path => run path
    | none => misuse
  | arg :: args => match takePath given arg with
    | some path => ofPaths (some path) args
    | none => misuse

/-- The arguments before `--`, and the others after it. -/
def ofArgs (given : Option String) : List String → Invocation
  | [] => ofPaths given []
  | arg :: args =>
    match arg.toList with
    | ['-', '-'] => ofPaths given args
    | '-' :: '-' :: option => if option = "help".toList then help else misuse
    | '-' :: letter :: _ => if letter = 'h' then help else misuse
    | _ => match takePath given arg with
      | some path => ofArgs (some path) args
      | none => misuse

end Invocation

namespace ArgumentParser

def plain : ArgumentParser := Invocation.ofArgs none

theorem plain_takesPath : plain.TakesPath := by
  intro path hpath hhyphen
  have htake : Invocation.takePath none path = some path := by simp [Invocation.takePath, hpath]
  rw [plain, Invocation.ofArgs]
  split
  · simp_all
  · simp_all
  · simp_all
  · rw [htake]
    rfl

end ArgumentParser

namespace Logger

/-- Writes the level, the part that logs and the text of a record on a line. -/
def plain : Logger where
  refusal := none
  write := fun level record =>
    if record.level < level then ""
    else record.level.name ++ " [" ++ record.target ++ "] " ++ record.text ++ "\n"

theorem plain_lawful : plain.Lawful where
  ready := rfl
  below := fun level record h => if_pos h
  line := by
    intro level record h
    refine ⟨record.level.name ++ " [" ++ record.target ++ "] " ++ record.text, ?_, if_neg (Level.not_lt.2 h)⟩
    simp

end Logger
end ByteMachine
