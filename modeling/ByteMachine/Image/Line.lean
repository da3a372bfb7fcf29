import ByteMachine.Byte

/-!
# Lines

A text in bytes is cut into lines at its line feeds. A carriage return before a line feed belongs to the line end, any
other one to the line, and nothing after the last line feed is no line. A line is text only if it is valid UTF-8.
-/

namespace ByteMachine.Image

def lineFeed : Byte := 0x0A

def carriageReturn : Byte := 0x0D

/-- A line without the carriage return that ends it. -/
def dropReturn (line : List Byte) : List Byte :=
  if line.getLast? = some carriageReturn then line.dropLast else line

/-- The lines of a text, without their line ends. -/
def lines (bytes : List Byte) : List (List Byte) :=
  let pieces := bytes.splitOn lineFeed
  pieces.dropLast.map dropReturn ++ pieces.getLast?.toList.filter (· ≠ [])

/-- The text of a line. -/
def text? (line : List Byte) : Option String := String.fromUTF8? ⟨line.toArray⟩

end ByteMachine.Image
