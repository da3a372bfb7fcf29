/-!
# Character classes

A class of characters is a list of ranges of code points, each given by its first and its last.
-/

namespace ByteMachine.Text

abbrev CharClass := List (Nat × Nat)

def CharClass.has (ranges : CharClass) (c : Char) : Bool :=
  ranges.any fun range => range.1 ≤ c.toNat && c.toNat ≤ range.2

theorem CharClass.has_iff {ranges : CharClass} {c : Char} :
    ranges.has c = true ↔ ∃ range ∈ ranges, range.1 ≤ c.toNat ∧ c.toNat ≤ range.2 := by
  simp [has]

end ByteMachine.Text
