import ByteMachine.Proofs.Cycle.Outcome

/-!
# Sessions

A session is a sequence of actions on one machine: it loads programs and goes on cycle by cycle, in any order. `play`
is the machine after a session, `answers` what the actions answered. An action on a machine that does not run leaves
its status and its sink alone (`perform_of_not_running`), and so does a session (`play_of_not_running`).
-/

namespace ByteMachine

inductive Action where
  | loadProgram (program : List Byte)
  | loadImage (image : List Byte)
  | step
deriving DecidableEq

/-- The program that an action loads. -/
def Action.program? : Action → Option (List Byte)
  | loadProgram program => some program
  | loadImage image => (Image.read image).program.toOption
  | step => none

theorem Action.program?_loadImage_eq_some_iff {image program : List Byte} :
    (loadImage image).program? = some program ↔ (Image.read image).program = .ok program := by
  rw [program?]
  cases (Image.read image).program <;> simp [Except.toOption]

/-- What an action answers. -/
inductive Answer where
  | loaded (result : Except LoadFault Nat)
  | cycled (result : Except Fault Status)

namespace Machine

/-- The machine after an action, and the answer. -/
def perform (m : Machine) : Action → Machine × Answer
  | .loadProgram program => ((m.loadProgram program).machine, .loaded (m.loadProgram program).result)
  | .loadImage image => ((m.loadImage image).machine, .loaded (m.loadImage image).result)
  | .step => (m.step.machine, .cycled m.step.result)

/-- The machine after a session. -/
def play (m : Machine) (actions : List Action) : Machine := actions.foldl (fun m action => (m.perform action).1) m

/-- The answers of a session, in order. -/
def answers (m : Machine) : List Action → List Answer
  | [] => []
  | action :: actions => (m.perform action).2 :: (m.perform action).1.answers actions

variable (m : Machine) (action : Action) (actions : List Action)

@[simp] theorem play_nil : m.play [] = m := rfl

@[simp] theorem play_cons : m.play (action :: actions) = (m.perform action).1.play actions := rfl

theorem play_append (more : List Action) : m.play (actions ++ more) = (m.play actions).play more := List.foldl_append

/-! ## Loading -/

/-- Loading may change memory and changes nothing else. -/
theorem loadProgram_machine (program : List Byte) :
    ∃ memory, (m.loadProgram program).machine = { m with state := { m.state with memory } } := by
  unfold loadProgram
  split
  · exact ⟨_, rfl⟩
  · exact ⟨m.state.memory, rfl⟩

theorem loadImage_machine (image : List Byte) :
    ∃ memory, (m.loadImage image).machine = { m with state := { m.state with memory } } := by
  unfold loadImage
  dsimp only
  split
  · exact m.loadProgram_machine _
  · exact ⟨m.state.memory, rfl⟩

/-- Loading does not look at the sink. -/
theorem loadProgram_sink (program : List Byte) (sink : Sink) :
    ({ m with sink } : Machine).loadProgram program =
      { m.loadProgram program with machine := { (m.loadProgram program).machine with sink } } := by
  cases h : m.state.memory.load program <;> simp [loadProgram, h]

theorem loadImage_sink (image : List Byte) (sink : Sink) :
    ({ m with sink } : Machine).loadImage image =
      { m.loadImage image with machine := { (m.loadImage image).machine with sink } } := by
  cases h : (Image.read image).program <;> simp [loadImage, h, loadProgram_sink]

/-- Whether a program can be loaded does not depend on the machine. -/
theorem loadProgram_result (m' : Machine) (program : List Byte) :
    (m.loadProgram program).result = (m'.loadProgram program).result := by
  by_cases h : program.length ≤ 256
  · rw [m.loadProgram_of_length_le h, m'.loadProgram_of_length_le h]
  · rw [m.loadProgram_of_length_gt (Nat.lt_of_not_le h), m'.loadProgram_of_length_gt (Nat.lt_of_not_le h)]

theorem loadImage_result (m' : Machine) (image : List Byte) :
    (m.loadImage image).result = (m'.loadImage image).result := by
  cases h : (Image.read image).program with
  | ok program => rw [m.loadImage_of_ok h, m'.loadImage_of_ok h]
  | error fault => rw [m.loadImage_of_error h, m'.loadImage_of_error h]

variable {m action}

theorem perform_answer_of_ne_step (h : action ≠ .step) (m' : Machine) :
    (m.perform action).2 = (m'.perform action).2 := by
  cases action with
  | loadProgram program => simp only [perform, m.loadProgram_result m' program]
  | loadImage image => simp only [perform, m.loadImage_result m' image]
  | step => contradiction

/-- An action that loads changes nothing but memory. -/
theorem perform_machine_of_ne_step (h : action ≠ .step) :
    ∃ memory, (m.perform action).1 = { m with state := { m.state with memory } } := by
  cases action with
  | loadProgram program => exact m.loadProgram_machine program
  | loadImage image => exact m.loadImage_machine image
  | step => contradiction

/-- An action that loads a program that fits puts it over the cells from 0 on. -/
theorem perform_of_program? {program : List Byte} (h : action.program? = some program)
    (hlength : program.length ≤ 256) : m.perform action =
      ({ m with state := { m.state with memory := m.state.memory.overlay program } },
        .loaded (.ok program.length)) := by
  cases action with
  | loadProgram bytes =>
    obtain rfl := Option.some.inj h
    rw [perform, m.loadProgram_of_length_le hlength]
  | loadImage image => rw [perform, m.loadImage_of_ok (Action.program?_loadImage_eq_some_iff.1 h)]
  | step => contradiction

theorem perform_sink_of_ne_step (h : action ≠ .step) (sink : Sink) :
    ({ m with sink } : Machine).perform action = ({ (m.perform action).1 with sink }, (m.perform action).2) := by
  cases action with
  | loadProgram program => simp [perform, loadProgram_sink]
  | loadImage image => simp [perform, loadImage_sink]
  | step => contradiction

/-! ## Machines that do not run -/

theorem perform_of_not_running (h : m.status ≠ .running) (action : Action) :
    (m.perform action).1.status = m.status ∧ (m.perform action).1.sink = m.sink := by
  by_cases ha : action = .step
  · rw [ha, perform, step_of_not_running h]
    exact ⟨rfl, rfl⟩
  · obtain ⟨memory, hm⟩ := perform_machine_of_ne_step (m := m) ha
    rw [hm]
    exact ⟨rfl, rfl⟩

/-- A machine that does not run never runs again and never writes again. -/
theorem play_of_not_running (h : m.status ≠ .running) (actions : List Action) :
    (m.play actions).status = m.status ∧ (m.play actions).sink = m.sink := by
  induction actions generalizing m with
  | nil => exact ⟨rfl, rfl⟩
  | cons action actions ih =>
    obtain ⟨hstatus, hsink⟩ := perform_of_not_running h action
    have hrest := ih (m := (m.perform action).1) (by rwa [hstatus])
    rw [hstatus, hsink] at hrest
    exact hrest

end Machine
end ByteMachine
