import ByteMachine.Byte

/-!
# Opcodes

An opcode byte `AABCDDDD` tells its layout in memory by itself: `AA` operand bytes follow it.
-/

namespace ByteMachine

/-- The first byte of an instruction. -/
abbrev Opcode := Byte

namespace Opcode

/-- How many of the bytes after the opcode belong to the instruction. -/
def operandCount (op : Opcode) : Byte := op >>> 6

/-- How many bytes the instruction takes in memory. -/
def length (op : Opcode) : Byte := op.operandCount + 1

theorem toNat_operandCount (op : Opcode) : op.operandCount.toNat = op.toNat / 64 := by
  simp [operandCount, UInt8.toNat_shiftRight, Nat.shiftRight_eq_div_pow]

theorem toNat_length (op : Opcode) : op.length.toNat = op.toNat / 64 + 1 := by
  have := op.toNat_lt
  simp only [length, UInt8.toNat_add, toNat_operandCount, UInt8.toNat_one]
  omega

end Opcode
end ByteMachine
