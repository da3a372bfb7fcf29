import ByteMachine.Byte

/-!
# Flags

The flags tell how the last comparison came out: the byte `00000LGE` has the bit of that outcome, and no bit before
the first comparison. A type with one value for each outcome leaves no room for two bits at once.
-/

namespace ByteMachine

inductive Flags where
  /-- Nothing has been compared. -/
  | clear
  | compared (outcome : Ordering)
deriving DecidableEq, Repr

namespace Flags

/-- The bit of each outcome. -/
def bit : Ordering → Byte
  | .lt => 0b100
  | .gt => 0b010
  | .eq => 0b001

/-- The byte `00000LGE`. -/
def byte : Flags → Byte
  | clear => 0
  | compared outcome => bit outcome

def isLess (f : Flags) : Bool := f = compared .lt

def isGreater (f : Flags) : Bool := f = compared .gt

def isEqual (f : Flags) : Bool := f = compared .eq

/-- The flags after comparing two unsigned bytes. -/
def ofComparison (x y : Byte) : Flags := compared (compare x y)

theorem byte_injective : ∀ f g : Flags, f.byte = g.byte → f = g := by
  rintro (_ | _ | _ | _) (_ | _ | _ | _) <;> decide

/-- A comparison leaves the bit of its outcome. -/
theorem byte_ofComparison (x y : Byte) : (ofComparison x y).byte = if x < y then 4 else if y < x then 2 else 1 := by
  rw [ofComparison]
  cases h : compare x y with
  | lt =>
    rw [if_pos (Std.compare_eq_lt.1 h)]
    rfl
  | gt =>
    have hlt := Std.compare_eq_gt.1 h
    rw [if_neg (UInt8.lt_asymm hlt), if_pos hlt]
    rfl
  | eq =>
    obtain rfl := Std.LawfulEqCmp.compare_eq_iff_eq.1 h
    rw [if_neg (UInt8.lt_irrefl x), if_neg (UInt8.lt_irrefl x)]
    rfl

theorem isLess_ofComparison (x y : Byte) : (ofComparison x y).isLess = decide (x < y) := by
  simp [isLess, ofComparison, Std.compare_eq_lt]

theorem isGreater_ofComparison (x y : Byte) : (ofComparison x y).isGreater = decide (y < x) := by
  simp [isGreater, ofComparison, Std.compare_eq_gt]

theorem isEqual_ofComparison (x y : Byte) : (ofComparison x y).isEqual = decide (x = y) := by
  simp [isEqual, ofComparison]

end Flags
end ByteMachine
