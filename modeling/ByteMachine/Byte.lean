/-!
# Bytes

Addresses, registers, cells and opcodes are bytes; sums, differences and products of bytes wrap at 256.
Two hexadecimal digits always write a byte, so a column of bytes in a text has a fixed width.
-/

namespace ByteMachine

/-- A number below 256. -/
abbrev Byte := UInt8

namespace Byte

/-- The high and the low hexadecimal digit, in lower case. -/
def digits (b : Byte) : List Char := [Nat.digitChar (b.toNat / 16), Nat.digitChar (b.toNat % 16)]

/-- Two lower-case hexadecimal digits. -/
def lowerHex (b : Byte) : String := String.ofList b.digits

/-- Two upper-case hexadecimal digits. -/
def upperHex (b : Byte) : String := String.ofList (b.digits.map Char.toUpper)

/-- Two lower-case digits after the mark of a hexadecimal number. -/
def marked (b : Byte) : String := "0x" ++ b.lowerHex

/-- The decimal numeral without leading zeros. -/
def decimal (b : Byte) : String := Nat.repr b.toNat

theorem length_digits (b : Byte) : b.digits.length = 2 := rfl

end Byte
end ByteMachine
