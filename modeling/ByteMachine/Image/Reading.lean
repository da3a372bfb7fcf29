import ByteMachine.Image.Line
import ByteMachine.Image.Literal
import ByteMachine.LoadFault
import ByteMachine.Log.Message

/-!
# Reading a program image

A program image holds one byte of a program on each line that has a literal. The other lines are skipped, and the log
names each of them. Reading ends at the first line that is not text; only an image that is text throughout is
measured against memory.
-/

namespace ByteMachine.Image

/-- The program of an image, or why there is none, and what was skipped on the way. -/
structure Reading where
  program : Except LoadFault (List Byte)
  log : List Message

/-- The texts of the lines before the first one that is not text. -/
def readable (lines : List (List Byte)) : List String := ((lines.map text?).takeWhile Option.isSome).filterMap id

/-- A message for each line without a literal. -/
def skips (texts : List String) : List Message :=
  (texts.zipIdx 1).filterMap fun (line, number) =>
    if (literal? line.toList).isNone then some (.skipped number line) else none

/-- The bytes of all literals in order. -/
def bytes (texts : List String) : List Byte := texts.filterMap fun line => literal? line.toList

def read (image : List Byte) : Reading :=
  let lines := lines image
  let texts := readable lines
  let program := bytes texts
  { program :=
      if lines.all fun line => (text? line).isSome then
        if program.length ≤ 256 then .ok program else .error (.tooLarge program.length)
      else .error (.unreadable .notText)
    log := skips texts }

/-- The reading of a file, or the fault that kept its content away. -/
def readContent : Except LoadFault (List Byte) → Reading
  | .ok image => read image
  | .error fault => ⟨.error fault, []⟩

/-- A program that was read fits in memory. -/
theorem length_le_of_program_read {image program : List Byte} (h : (read image).program = .ok program) :
    program.length ≤ 256 := by
  simp only [read] at h
  split at h
  · split at h
    · rwa [← Except.ok.inj h]
    · contradiction
  · contradiction

/-- Only lines that are skipped are reported. -/
theorem exists_skipped_of_mem_log {image : List Byte} {message : Message} (h : message ∈ (read image).log) :
    ∃ number line, message = .skipped number line := by
  obtain ⟨⟨line, number⟩, _, hmessage⟩ := List.mem_filterMap.1 h
  simp only [Option.ite_none_right_eq_some, Option.some.injEq] at hmessage
  exact ⟨number, line, hmessage.2.symm⟩

end ByteMachine.Image
