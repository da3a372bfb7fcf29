import ByteMachine.Storage.Memory
import ByteMachine.Storage.Registers
import ByteMachine.Isa.Flags
import ByteMachine.Isa.Opcode

/-!
# States

A state is all that an instruction reads and changes. `fetch` reads the byte at the program counter and the two after
it, whether or not the instruction takes that many operands.
-/

namespace ByteMachine

/-- An opcode with the two bytes after it. -/
structure Word where
  op : Opcode
  a : Byte
  b : Byte
deriving DecidableEq, Repr

structure State where
  registers : Registers
  flags : Flags
  /-- The address of the next instruction. -/
  pc : Byte
  memory : Memory
  halted : Bool
  /-- A value that was printed and not written out yet. -/
  printed : Option Byte
deriving DecidableEq

namespace State

/-- Blank memory, the program counter at 0, the stack pointer where the stack starts. -/
def initial : State := ⟨Registers.initial, .clear, 0, Memory.blank, false, none⟩

def get (s : State) (r : Register) : Byte := s.registers.get r

def set (s : State) (r : Register) (value : Byte) : State := { s with registers := s.registers.set r value }

/-- The value of the stack pointer. -/
def sp (s : State) : Byte := s.get Register.sp

/-- The three bytes at the program counter; addresses wrap. -/
def fetch (s : State) : Word := ⟨s.memory.read s.pc, s.memory.read (s.pc + 1), s.memory.read (s.pc + 2)⟩

/-- The address after the bytes that `op` says its instruction takes. -/
def next (s : State) (op : Opcode) : Byte := s.pc + op.length

/-- Goes on to the instruction after this one. -/
def advance (s : State) (op : Opcode) : State := { s with pc := s.next op }

/-! ## The stack -/

/-- Takes one more cell for the stack. -/
def lower (s : State) : State := s.set Register.sp (s.sp - 1)

/-- Gives the top cell of the stack back. -/
def raise (s : State) : State := s.set Register.sp (s.sp + 1)

/-- The cell that the stack pointer points to. -/
def top (s : State) : Byte := s.memory.read s.sp

def setTop (s : State) (value : Byte) : State := { s with memory := s.memory.write s.sp value }

/-! ## The next instruction -/

theorem next_eq (s : State) (op : Opcode) : s.next op = s.pc + 1 + op.operandCount := by
  rw [next, Opcode.length, UInt8.add_assoc, UInt8.add_comm 1]

theorem toNat_next (s : State) (op : Opcode) :
    (s.next op).toNat = (s.pc.toNat + (1 + op.toNat / 64)) % 256 := by
  rw [next, UInt8.toNat_add, Opcode.toNat_length, Nat.add_comm 1]

/-- No opcode tells a length that leads back to the same address. -/
theorem next_ne_pc (s : State) (op : Opcode) : s.next op ≠ s.pc := by
  intro h
  have hnat := s.toNat_next op
  have hop := op.toNat_lt
  have hpc := s.pc.toNat_lt
  rw [h] at hnat
  omega

/-! ## What is read after an operation -/

theorem get_set (s : State) (r x : Register) (v : Byte) : (s.set r v).get x = if x = r then v else s.get x :=
  Registers.get_set s.registers r x v

/-- A register that is given its own value keeps it. -/
theorem set_get (s : State) (r : Register) : s.set r (s.get r) = s :=
  congrArg (fun registers => { s with registers }) (s.registers.set_get r)

theorem set_set (s : State) (r : Register) (u v : Byte) : (s.set r u).set r v = s.set r v :=
  congrArg (fun registers => { s with registers }) (s.registers.set_set r u v)

theorem set_comm (s : State) {r x : Register} (h : r ≠ x) (u v : Byte) :
    (s.set r u).set x v = (s.set x v).set r u :=
  congrArg (fun registers => { s with registers }) (s.registers.set_comm h u v)

@[simp] theorem sp_set_sp (s : State) (v : Byte) : (s.set Register.sp v).sp = v := by
  simp [sp, get_set]

@[simp] theorem sp_lower (s : State) : s.lower.sp = s.sp - 1 := sp_set_sp s _

@[simp] theorem sp_raise (s : State) : s.raise.sp = s.sp + 1 := sp_set_sp s _

/-- A cell that is taken and given back leaves the stack pointer where it was. -/
theorem raise_lower (s : State) : s.lower.raise = s := by
  rw [raise, sp_lower, lower, set_set, UInt8.sub_add_cancel]
  exact s.set_get Register.sp

theorem get_lower (s : State) (r : Register) : s.lower.get r = if r = Register.sp then s.sp - 1 else s.get r :=
  s.get_set Register.sp r _

@[simp] theorem top_setTop (s : State) (v : Byte) : (s.setTop v).top = v :=
  (s.memory.read_write s.sp v s.sp).trans (if_pos rfl)

end State
end ByteMachine
