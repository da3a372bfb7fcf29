import ByteMachine.Machine.Step

/-!
# Runs

A run is one cycle after another until the machine no longer runs or a cycle fails. A machine has finitely many states
and a bounded sink finitely many fillings, so a run that is longer than their number never ends, and `run` answers
`none` for it.

A `turn` is a cycle of a run that is shown while it goes on.
-/

namespace ByteMachine

/-- The number of states: eight registers, four flags, a program counter, 256 cells, halted or not, a printed byte. -/
def State.count : Nat := Nat.pow 256 8 * 4 * 256 * Nat.pow 256 256 * 2 * 257

namespace Machine

/-- No run that ends has more cycles. -/
def cycleBound (m : Machine) : Nat :=
  match m.sink.bound with
  | none => State.count
  | some (limit, _) => State.count * (limit + 1)

/-- Runs for at most so many cycles; `none` if the machine then still runs. `log` holds the messages so far. -/
def runFor (m : Machine) (log : Array Message) : Nat → Option (Reply Fault Status)
  | 0 => if m.status = .running then none else some ⟨m, .ok m.status, log.toList⟩
  | fuel + 1 =>
    if m.status = .running then
      match m.step with
      | ⟨m', .ok _, messages⟩ => m'.runFor (log ++ messages) fuel
      | ⟨m', .error fault, messages⟩ => some ⟨m', .error fault, (log ++ messages).toList⟩
    else some ⟨m, .ok m.status, log.toList⟩

/-- Runs until the machine halts or fails; `none` if it never does. -/
def run (m : Machine) : Option (Reply Fault Status) := m.runFor #[] m.cycleBound

/-- The machine once its text has been printed. -/
def emptied (m : Machine) : Machine := { m with sink := {} }

/-- What a cycle of a run has to show, and how the run goes on. -/
structure Turn where
  text : String
  log : List Message
  /-- The machine to go on with, or the result of the run. -/
  next : Machine ⊕ Except Fault Status

/-- A cycle of a run whose text and messages are shown as they come. -/
def turn (m : Machine) : Turn :=
  let reply := m.step
  { text := reply.machine.sink.text
    log := reply.log
    next := match reply.result with
      | .ok .running => .inl reply.machine.emptied
      | result => .inr result }

theorem turn_of_running {m : Machine} (h : m.step.result = .ok .running) :
    m.turn = ⟨m.step.machine.sink.text, m.step.log, .inl m.step.machine.emptied⟩ := by
  simp only [turn, h]

theorem turn_of_ne {m : Machine} (h : m.step.result ≠ .ok .running) :
    m.turn = ⟨m.step.machine.sink.text, m.step.log, .inr m.step.result⟩ := by
  -- `h` rules out the first case
  simp only [turn]

/-- The log of a run starts with the messages so far, and they change nothing else. -/
theorem runFor_log (m : Machine) (log : Array Message) (fuel : Nat) :
    m.runFor log fuel = (m.runFor #[] fuel).map fun r => { r with log := log.toList ++ r.log } := by
  induction fuel generalizing m log with
  | zero =>
    simp only [runFor]
    split <;> simp
  | succ fuel ih =>
    unfold runFor
    split
    · split
      · rename_i m' _ messages _
        rw [ih m' (log ++ messages), ih m' (#[] ++ messages)]
        simp [Function.comp_def]
      · simp
    · simp

end Machine
end ByteMachine
