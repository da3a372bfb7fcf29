import ByteMachine.Text.Unprintable

/-!
# Quoted text

A quoted text stands between double quotes on one line, and every character in it can be seen: quotes and
backslashes are marked by a backslash, some controls have a letter of their own, and other unprintable characters are
written as the hexadecimal number of their code point.
-/

namespace ByteMachine.Text

/-- The letter that stands for a character after a backslash. -/
def escapeLetter? : Char → Option Char
  | '\x00' => some '0'
  | '\t' => some 't'
  | '\n' => some 'n'
  | '\r' => some 'r'
  | '"' => some '"'
  | '\\' => some '\\'
  | _ => none

/-- What a quoted text has for one character. -/
def escape (c : Char) : List Char :=
  match escapeLetter? c with
  | some letter => ['\\', letter]
  | none => if isUnprintable c then ['\\', 'u', '\x7b'] ++ Nat.toDigits 16 c.toNat ++ ['\x7d'] else [c]

def quote (s : String) : String := String.ofList ('"' :: s.toList.flatMap escape ++ ['"'])

/-- A character that needs no escape stands for itself. -/
theorem escape_of_printable {c : Char} (h : escapeLetter? c = none) (h' : isUnprintable c = false) :
    escape c = [c] := by
  simp [escape, h, h']

end ByteMachine.Text
