import ByteMachine.Image.Reading
import ByteMachine.Isa.State
import ByteMachine.Machine.Fault

/-!
# Machines

A machine is a state, where it is in its life, and the sink that it writes to. What one operation leaves is a `Reply`:
the machine after it, its result, and what it logged.
-/

namespace ByteMachine

inductive Status where
  | running
  /-- Stopped by the instruction to halt. -/
  | halted
  /-- Stopped by a fault. -/
  | aborted
deriving DecidableEq, Repr

def Status.name : Status → String
  | running => "Running"
  | halted => "Halted"
  | aborted => "Aborted"

structure Machine where
  state : State
  status : Status
  sink : Sink
deriving DecidableEq

structure Reply (ε α : Type) where
  machine : Machine
  result : Except ε α
  log : List Message

namespace Machine

/-- A machine that is ready to run and has no program yet. -/
def start (sink : Sink) : Machine := ⟨State.initial, .running, sink⟩

/-! ## Loading -/

/-- Places a program at address 0 and changes nothing else; a program that is too long changes nothing at all. -/
def loadProgram (m : Machine) (program : List Byte) : Reply LoadFault Nat :=
  match m.state.memory.load program with
  | .ok memory => ⟨{ m with state := { m.state with memory } }, .ok program.length, [.loaded program.length]⟩
  | .error fault => ⟨m, .error fault, []⟩

/-- Places the program of an image. -/
def loadImage (m : Machine) (image : List Byte) : Reply LoadFault Nat :=
  let reading := Image.read image
  match reading.program with
  | .ok program =>
    let reply := m.loadProgram program
    { reply with log := reading.log ++ reply.log }
  | .error fault => ⟨m, .error fault, reading.log⟩

/-- A new machine with a program in memory. -/
def loaded (program : List Byte) : Machine := ((start {}).loadProgram program).machine

/-! ## What loading leaves -/

variable (m : Machine) {program image : List Byte} {fault : LoadFault}

/-- A program that fits stands in memory from address 0 on. -/
theorem loadProgram_of_length_le (h : program.length ≤ 256) : m.loadProgram program =
    ⟨{ m with state := { m.state with memory := m.state.memory.overlay program } }, .ok program.length,
      [.loaded program.length]⟩ := by
  rw [loadProgram, Memory.load_of_length_le _ h]

/-- A program that does not fit leaves the machine as it was. -/
theorem loadProgram_of_length_gt (h : 256 < program.length) :
    m.loadProgram program = ⟨m, .error (.tooLarge program.length), []⟩ := by
  rw [loadProgram, Memory.load_of_length_gt _ h]

/-- The program of an image always fits. -/
theorem loadImage_of_ok (h : (Image.read image).program = .ok program) : m.loadImage image =
    ⟨{ m with state := { m.state with memory := m.state.memory.overlay program } }, .ok program.length,
      (Image.read image).log ++ [.loaded program.length]⟩ := by
  simp only [loadImage, h, m.loadProgram_of_length_le (Image.length_le_of_program_read h)]

/-- An image without a program leaves the machine as it was. -/
theorem loadImage_of_error (h : (Image.read image).program = .error fault) :
    m.loadImage image = ⟨m, .error fault, (Image.read image).log⟩ := by
  simp only [loadImage, h]

theorem loaded_eq (h : program.length ≤ 256) :
    loaded program = ⟨{ State.initial with memory := Memory.blank.overlay program }, .running, {}⟩ := by
  rw [loaded, loadProgram_of_length_le _ h]
  rfl

end Machine
end ByteMachine
