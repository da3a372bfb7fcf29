import ByteMachine.Byte

/-!
# Registers

Eight registers of one byte each. The last one is the stack pointer and starts at `0xF4`; the others start at zero.
An operand byte names a register only if it is below 8.
-/

namespace ByteMachine

/-- The number of a register, `R0` to `R7`. -/
abbrev Register := Fin 8

namespace Register

/-- The stack pointer is `R7`. -/
def sp : Register := 7

/-- The register that an operand byte names. -/
def ofByte? (b : Byte) : Option Register := if h : b.toNat < 8 then some ⟨b.toNat, h⟩ else none

/-- The operand byte that names a register. -/
def toByte (r : Register) : Byte := UInt8.ofNat r.val

theorem toNat_toByte (r : Register) : r.toByte.toNat = r.val :=
  UInt8.toNat_ofNat_of_lt' (Nat.lt_trans r.isLt (by decide))

theorem ofByte?_eq_none_iff {b : Byte} : ofByte? b = none ↔ 8 ≤ b.toNat := by
  simp [ofByte?]

theorem ofByte?_eq_some_iff {b : Byte} {r : Register} : ofByte? b = some r ↔ b.toNat = r.val := by
  simp only [ofByte?, Option.dite_none_right_eq_some, Option.some.injEq, Fin.ext_iff]
  exact ⟨fun ⟨_, h⟩ => h, fun h => ⟨by omega, h⟩⟩

end Register

/-- The values of all registers. -/
structure Registers where
  values : Vector Byte 8
deriving DecidableEq

namespace Registers

def get (rs : Registers) (r : Register) : Byte := rs.values[r]

def set (rs : Registers) (r : Register) (value : Byte) : Registers := ⟨rs.values.set r value⟩

/-- Where the stack pointer starts. -/
def stackStart : Byte := 0xF4

/-- All registers are zero but the stack pointer. -/
def initial : Registers := set ⟨Vector.replicate 8 0⟩ Register.sp stackStart

/-- The values of `R0` to `R7` in this order. -/
def toList (rs : Registers) : List Byte := rs.values.toList

theorem ext_get {rs rs' : Registers} (h : ∀ r, rs.get r = rs'.get r) : rs = rs' := by
  obtain ⟨values⟩ := rs
  obtain ⟨values'⟩ := rs'
  congr 1
  exact Vector.ext fun i hi => h ⟨i, hi⟩

theorem get_set (rs : Registers) (r x : Register) (v : Byte) : (rs.set r v).get x = if x = r then v else rs.get x := by
  simp [get, set, Vector.getElem_set, Fin.ext_iff, eq_comm]

/-- A register that is given its own value keeps it. -/
theorem set_get (rs : Registers) (r : Register) : rs.set r (rs.get r) = rs := by
  refine ext_get fun x => ?_
  rw [get_set]
  split
  · rename_i hx
    rw [hx]
  · rfl

theorem set_set (rs : Registers) (r : Register) (u v : Byte) : (rs.set r u).set r v = rs.set r v := by
  refine ext_get fun x => ?_
  simp only [get_set]
  split <;> rfl

theorem set_comm (rs : Registers) {r x : Register} (h : r ≠ x) (u v : Byte) :
    (rs.set r u).set x v = (rs.set x v).set r u := by
  refine ext_get fun y => ?_
  simp only [get_set]
  split
  · rename_i hx
    rw [if_neg (hx ▸ h.symm)]
  · rfl

theorem get_initial (r : Register) : initial.get r = if r = Register.sp then stackStart else 0 := by
  simp only [initial, get_set]
  simp [get]

end Registers
end ByteMachine
