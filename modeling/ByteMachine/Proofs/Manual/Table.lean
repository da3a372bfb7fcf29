/-!
# The machine of the manual

The manual gives the instructions as a table: for each opcode its operands and what it does, as assignments to
registers, to the cell at the top of the stack and to the program counter. Here the table is data (`table`), and
`cycle` carries out the row of the byte at the program counter on natural numbers below 256.

- The assignments of a row are made in place, one after another. The stack pointer is register 7, so a row whose
  operand names register 7 sees what its earlier assignments have left there.
- The program counter goes on by the length of the instruction unless an assignment has set it.
-/

namespace ByteMachine.Manual

/-- The contents of the machine as numbers; the flags are the number `4 L + 2 G + E`. -/
structure Figures where
  reg : Nat → Nat
  mem : Nat → Nat
  flags : Nat
  pc : Nat
  halted : Bool

/-- A register that a row names: by an operand, or the stack pointer. -/
inductive Name where
  | regA | regB | sp
deriving DecidableEq

/-- The number of a register, where the operands are `a` and `b`. -/
def Name.index (a b : Nat) : Name → Nat
  | regA => a
  | regB => b
  | sp => 7

/-- What stands on the right of an assignment. -/
inductive Term where
  | const (n : Nat)
  | imm8
  | pc
  | reg (name : Name)
  /-- The cell that the stack pointer points to. -/
  | top
  | add (t u : Term)
  | sub (t u : Term)
  | mul (t u : Term)
deriving DecidableEq

/-- One assignment of a row. -/
inductive Assignment where
  | reg (name : Name) (value : Term)
  | top (value : Term)
  | pc (value : Term)
  /-- Sets the program counter only if flag E is as given. -/
  | pcIf (equal : Bool) (value : Term)
  /-- Sets exactly one of the flags L, G and E. -/
  | compare (t u : Term)
  | print (value : Term)
  | halt
deriving DecidableEq

/-- What an assignment may change. -/
inductive Place where
  | reg (name : Name) | top | pc | flags | output | halted
deriving DecidableEq

/-- The place that an assignment names. -/
def Assignment.place : Assignment → Place
  | reg name _ => .reg name
  | top _ => .top
  | pc _ | pcIf _ _ => .pc
  | compare _ _ => .flags
  | print _ => .output
  | halt => .halted

/-- What an operand byte of an instruction is. -/
inductive Operand where
  | register | immediate
deriving DecidableEq

structure Row where
  opcode : Nat
  operands : List Operand
  assignments : List Assignment

/-- The places that the assignments of a row name. -/
def Row.places (row : Row) : List Place := row.assignments.map Assignment.place

open Term Name in
/-- The table of the manual, row by row. -/
def table : List Row := [
  ⟨0x82, [.register, .immediate], [.reg regA imm8]⟩, -- LDI
  ⟨0x47, [.register], [.print (reg regA)]⟩, -- PRN
  ⟨0x01, [], [.halt]⟩, -- HLT
  ⟨0xA0, [.register, .register], [.reg regA (add (reg regA) (reg regB))]⟩, -- ADD
  ⟨0xA2, [.register, .register], [.reg regA (mul (reg regA) (reg regB))]⟩, -- MUL
  ⟨0x45, [.register], [.reg sp (sub (reg sp) (const 1)), .top (reg regA)]⟩, -- PUSH
  ⟨0x46, [.register], [.reg regA top, .reg sp (add (reg sp) (const 1))]⟩, -- POP
  ⟨0x50, [.register], [.reg sp (sub (reg sp) (const 1)), .top (add pc (const 2)), .pc (reg regA)]⟩, -- CALL
  ⟨0x11, [], [.pc top, .reg sp (add (reg sp) (const 1))]⟩, -- RET
  ⟨0xA7, [.register, .register], [.compare (reg regA) (reg regB)]⟩, -- CMP
  ⟨0x54, [.register], [.pc (reg regA)]⟩, -- JMP
  ⟨0x55, [.register], [.pcIf true (reg regA)]⟩, -- JEQ
  ⟨0x56, [.register], [.pcIf false (reg regA)]⟩] -- JNE

/-- The row of an opcode. -/
def row? (op : Nat) : Option Row := table.find? (·.opcode = op)

/-! ## Carrying out a row -/

/-- A row under way: the operand bytes, the figures so far, whether the program counter was set, what was written. -/
structure Progress where
  a : Nat
  b : Nat
  figures : Figures
  jumped : Bool := false
  text : String := ""

namespace Progress

def reg (p : Progress) (name : Name) : Nat := p.figures.reg (name.index p.a p.b)

/-- The value of a term; arithmetic wraps at 256. -/
def value (p : Progress) : Term → Nat
  | .const n => n
  | .imm8 => p.b
  | .pc => p.figures.pc
  | .reg name => p.reg name
  | .top => p.figures.mem (p.reg .sp)
  | .add t u => (p.value t + p.value u) % 256
  | .sub t u => (p.value t + 256 - p.value u) % 256
  | .mul t u => p.value t * p.value u % 256

def setReg (p : Progress) (n v : Nat) : Progress :=
  { p with figures := { p.figures with reg := fun m => if m = n then v else p.figures.reg m } }

def setMem (p : Progress) (n v : Nat) : Progress :=
  { p with figures := { p.figures with mem := fun m => if m = n then v else p.figures.mem m } }

def setPc (p : Progress) (v : Nat) : Progress := { p with figures := { p.figures with pc := v }, jumped := true }

def perform (p : Progress) : Assignment → Progress
  | .reg name t => p.setReg (name.index p.a p.b) (p.value t)
  | .top t => p.setMem (p.reg .sp) (p.value t)
  | .pc t => p.setPc (p.value t)
  | .pcIf equal t => if decide (p.figures.flags % 2 = 1) = equal then p.setPc (p.value t) else p
  | .compare t u =>
    let flags := if p.value t < p.value u then 4 else if p.value u < p.value t then 2 else 1
    { p with figures := { p.figures with flags } }
  | .print t => { p with text := p.text ++ (Nat.repr (p.value t) ++ "\n") }
  | .halt => { p with figures := { p.figures with halted := true }, text := p.text ++ "Program Halted\n" }

end Progress

/-- The operands that a row takes as registers name registers. -/
def Row.Valid (row : Row) (a b : Nat) : Prop :=
  (row.operands[0]? = some .register → a < 8) ∧ (row.operands[1]? = some .register → b < 8)

instance (row : Row) (a b : Nat) : Decidable (row.Valid a b) := inferInstanceAs (Decidable (_ ∧ _))

namespace Figures

/-- The byte at the program counter and the two after it. -/
def op (f : Figures) : Nat := f.mem f.pc

def a (f : Figures) : Nat := f.mem ((f.pc + 1) % 256)

def b (f : Figures) : Nat := f.mem ((f.pc + 2) % 256)

/-- The figures after a row, and what it writes. -/
def carryOut (f : Figures) (row : Row) : Figures × String :=
  let p := row.assignments.foldl Progress.perform { a := f.a, b := f.b, figures := f }
  (if p.jumped then p.figures else { p.figures with pc := (f.pc + 1 + row.opcode / 64) % 256 }, p.text)

/-- One cycle; there is none where the byte at the program counter has no row or an operand names no register. -/
def cycle (f : Figures) : Option (Figures × String) :=
  match row? f.op with
  | none => none
  | some row => if row.Valid f.a f.b then some (f.carryOut row) else none

end Figures
end ByteMachine.Manual
