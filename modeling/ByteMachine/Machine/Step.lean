import ByteMachine.Isa.Execution
import ByteMachine.Machine.Basic

/-!
# Cycles

One cycle fetches, decodes and executes an instruction, and then writes what the new state has to say. The new state
counts only if the instruction succeeds; once it counts it stays, also when writing it out fails (`commit`). A machine
that does not run does nothing (`step_of_not_running`).
-/

namespace ByteMachine

/-- The last line of a machine that halts. -/
def haltNotice : String := "Program Halted"

namespace Machine

/-- Stops the machine with a fault. -/
def abort (m : Machine) (fault : Fault) (log : List Message) : Reply Fault Status :=
  ⟨{ m with status := .aborted }, .error fault, log⟩

/-- Writes a line; a sink that refuses some of it aborts the machine. -/
def emit (m : Machine) (line : String) (log : List Message) : Reply Fault Status :=
  match m.sink.write (line ++ "\n") with
  | (sink, none) => ⟨{ m with sink }, .ok m.status, log⟩
  | (sink, some refusal) => abort { m with sink } (.output refusal) log

/-- Writes the value that was printed, if there is one. -/
def emitValue (m : Machine) (printed : Option Byte) (log : List Message) : Reply Fault Status :=
  match printed with
  | some value => m.emit value.decimal log
  | none => ⟨m, .ok m.status, log⟩

/-- Takes over a new state and writes what it has to say: first the value that was printed, then, if the state has
halted, the notice of that. -/
def commit (m : Machine) (s : State) (log : List Message) : Reply Fault Status :=
  let reply := emitValue { m with state := { s with printed := none } } s.printed log
  match reply.result with
  | .error _ => reply
  | .ok _ =>
    if s.halted then emit { reply.machine with status := .halted } haltNotice (log ++ [.halted s.pc]) else reply

/-- One cycle. -/
def step (m : Machine) : Reply Fault Status :=
  if m.status = .running then
    let word := m.state.fetch
    match Instruction.decode word.op with
    | none => m.abort (.invalidInstruction word.op m.state.pc) []
    | some i =>
      let log := [.executing m.state.trace i]
      match execute i word m.state with
      | .error trap => m.abort (.trapped trap) log
      | .ok s => m.commit s log
  else ⟨m, .ok m.status, []⟩

theorem step_of_not_running {m : Machine} (h : m.status ≠ .running) : m.step = ⟨m, .ok m.status, []⟩ := if_neg h

theorem step_of_decode_none {m : Machine} (h : m.status = .running)
    (hd : Instruction.decode m.state.fetch.op = none) :
    m.step = m.abort (.invalidInstruction m.state.fetch.op m.state.pc) [] := by
  simp [step, h, hd]

theorem step_of_trap {m : Machine} {i : Instruction} {trap : Trap} (h : m.status = .running)
    (hd : Instruction.decode m.state.fetch.op = some i) (he : execute i m.state.fetch m.state = .error trap) :
    m.step = m.abort (.trapped trap) [.executing m.state.trace i] := by
  simp [step, h, hd, he]

theorem step_of_execute {m : Machine} {i : Instruction} {s : State} (h : m.status = .running)
    (hd : Instruction.decode m.state.fetch.op = some i) (he : execute i m.state.fetch m.state = .ok s) :
    m.step = m.commit s [.executing m.state.trace i] := by
  simp [step, h, hd, he]

end Machine
end ByteMachine
