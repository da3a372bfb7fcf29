import ByteMachine.Isa.Opcode

/-!
# Instructions

The thirteen instructions, their opcodes and their names. Every opcode belongs to one instruction
(`decode_opcode`, `opcode_of_decode`); all other bytes decode to nothing.
-/

namespace ByteMachine

inductive Instruction where
  | ldi | prn | hlt | add | mul | cmp | push | pop | call | ret | jmp | jeq | jne
deriving DecidableEq, Repr

namespace Instruction

def all : List Instruction := [ldi, prn, hlt, add, mul, cmp, push, pop, call, ret, jmp, jeq, jne]

def opcode : Instruction → Opcode
  | ldi => 0x82
  | prn => 0x47
  | hlt => 0x01
  | add => 0xA0
  | mul => 0xA2
  | cmp => 0xA7
  | push => 0x45
  | pop => 0x46
  | call => 0x50
  | ret => 0x11
  | jmp => 0x54
  | jeq => 0x55
  | jne => 0x56

/-- The name that assembly text and the log use. -/
def mnemonic : Instruction → String
  | ldi => "LDI"
  | prn => "PRN"
  | hlt => "HLT"
  | add => "ADD"
  | mul => "MUL"
  | cmp => "CMP"
  | push => "PUSH"
  | pop => "POP"
  | call => "CALL"
  | ret => "RET"
  | jmp => "JMP"
  | jeq => "JEQ"
  | jne => "JNE"

/-- The instruction with a given opcode. -/
def decode (op : Opcode) : Option Instruction := all.find? (·.opcode = op)

theorem mem_all (i : Instruction) : i ∈ all := by cases i <;> decide

theorem decode_opcode (i : Instruction) : decode i.opcode = some i := by cases i <;> decide

theorem opcode_of_decode {op : Opcode} {i : Instruction} (h : decode op = some i) : i.opcode = op := by
  simpa using List.find?_some h

theorem decode_eq_some_iff {op : Opcode} {i : Instruction} : decode op = some i ↔ i.opcode = op :=
  ⟨opcode_of_decode, fun h => h ▸ decode_opcode i⟩

theorem decode_eq_none_iff {op : Opcode} : decode op = none ↔ ∀ i : Instruction, i.opcode ≠ op := by
  simp [decode, mem_all]

end Instruction
end ByteMachine
