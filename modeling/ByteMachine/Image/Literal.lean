import ByteMachine.Byte
import ByteMachine.Text.Blank

/-!
# Binary literals

A line of a program image gives a byte if what stands before its first `#`, without the blanks around it, is a binary
numeral below 2^32, with or without a plus sign. The byte is the low byte of that number.
-/

namespace ByteMachine.Image

def isBinaryDigit (c : Char) : Bool := c = '0' || c = '1'

/-- The number that binary digits write, the most significant first. -/
def binaryValue (digits : List Char) : Nat := digits.foldl (fun n c => 2 * n + if c = '1' then 1 else 0) 0

/-- The number that a numeral writes; a numeral has at least one digit. -/
def numeral? (cs : List Char) : Option Nat :=
  if cs ≠ [] ∧ cs.all isBinaryDigit then some (binaryValue cs) else none

/-- One plus sign may stand before a numeral. -/
def dropPlus : List Char → List Char
  | '+' :: cs => cs
  | cs => cs

/-- What stands before the comment, without the blanks around it. -/
def code (line : List Char) : List Char := Text.trim (line.takeWhile (· ≠ '#'))

/-- The byte that a line gives. -/
def literal? (line : List Char) : Option Byte :=
  ((numeral? (dropPlus (code line))).filter (· < UInt32.size)).map UInt8.ofNat

theorem numeral?_eq_some_iff {cs : List Char} {n : Nat} :
    numeral? cs = some n ↔ cs ≠ [] ∧ (∀ c ∈ cs, c = '0' ∨ c = '1') ∧ binaryValue cs = n := by
  simp [numeral?, isBinaryDigit, and_assoc]

theorem literal?_eq_some_iff {line : List Char} {b : Byte} :
    literal? line = some b ↔ ∃ n, numeral? (dropPlus (code line)) = some n ∧ n < UInt32.size ∧ UInt8.ofNat n = b := by
  simp [literal?, Option.filter_eq_some_iff, and_assoc]

end ByteMachine.Image
