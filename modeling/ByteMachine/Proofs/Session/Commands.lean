import ByteMachine.Proofs.Run.Bound
import ByteMachine.Proofs.Session.Actions

/-!
# Sessions with runs

The commands of a session are the actions and, besides them, runs. A session keeps its machine, what the commands
answered, and the machines in which a cycle began, so that what was ever carried out can be read off. A run that does
not end leaves no session (`conduct`).

A command either loads or goes on by some cycles, of which it answers the last one (`obey_cases`). What one command
preserves a session preserves (`conduct_induction`), and what a load and a cycle preserve holds at every moment of a
session, told with the machines in which the earlier cycles began (`moment_induction`). A command to a machine that
does not run changes memory at most, and its answer is known (`obey_of_not_running`, `conduct_of_not_running`).
-/

namespace ByteMachine

inductive Command where
  | act (action : Action)
  | run
deriving DecidableEq

structure Session where
  machine : Machine
  /-- What the commands answered, in order. -/
  answers : List Answer
  /-- The machines in which the cycles began, in order. -/
  begun : List Machine

/-! ## Cycles that begin -/

namespace Machine

variable {m : Machine} {n fuel : Nat}

/-- The machines in which the next cycles begin, at most so many. -/
def begun (m : Machine) : Nat → List Machine
  | 0 => []
  | fuel + 1 => if m.status = .running then m :: m.step.machine.begun fuel else []

/-- If there is no fuel for more cycles, or the machine stops, then no more begin. -/
theorem begun_eq (h : m.Goes n) (hn : fuel = n ∨ n ≤ fuel ∧ (m.cycles n).status ≠ .running) :
    m.begun fuel = m.course n := by
  induction n generalizing m fuel with
  | zero =>
    obtain rfl | ⟨_, hstop⟩ := hn
    · rfl
    · cases fuel with
      | zero => rfl
      | succ fuel => exact if_neg hstop
  | succ n ih =>
    obtain ⟨hm, h⟩ := goes_succ_iff.1 h
    obtain ⟨fuel, rfl⟩ : ∃ j, fuel = j + 1 := ⟨fuel - 1, by omega⟩
    rw [← cycles_step] at hn
    rw [begun, if_pos hm, ih h (by simpa using hn), course_succ]

end Machine

/-! ## Commands -/

namespace Session

/-- The session after one command. -/
def obey (s : Session) : Command → Option Session
  | .act action => some {
      machine := (s.machine.perform action).1
      answers := s.answers ++ [(s.machine.perform action).2]
      begun := s.begun ++ if action = .step then s.machine.begun 1 else [] }
  | .run => s.machine.run.map fun reply => {
      machine := reply.machine
      answers := s.answers ++ [.cycled reply.result]
      begun := s.begun ++ s.machine.begun s.machine.cycleBound }

/-- The session after a list of commands, if all runs end. -/
def conduct (s : Session) : List Command → Option Session
  | [] => some s
  | command :: commands => (s.obey command).bind fun t => t.conduct commands

/-- A session that has not done anything yet. -/
def start (sink : Sink) : Session := ⟨.start sink, [], []⟩

variable {s s' : Session} {command : Command} {commands : List Command}

/-- The session that goes on by `n` cycles. -/
def advance (s : Session) (n : Nat) : Session where
  machine := s.machine.cycles n
  answers := s.answers ++ [.cycled (s.machine.resultAfter n)]
  begun := s.begun ++ s.machine.course n

/-- The session after a command that loads. -/
def load (s : Session) (memory : Memory) (result : Except LoadFault Nat) : Session :=
  { s with
    machine := { s.machine with state := { s.machine.state with memory } }
    answers := s.answers ++ [.loaded result] }

/-- **A command loads or goes on by some cycles.** It goes on by none only if the machine does not run. -/
theorem obey_cases (h : s.obey command = some s') :
    (∃ memory result, s' = s.load memory result) ∨
      ∃ n, s.machine.Goes n ∧ (n = 0 → s.machine.status ≠ .running) ∧ s' = s.advance n := by
  cases command with
  | act action =>
    obtain rfl := Option.some.inj h
    cases action with
    | loadProgram program =>
      obtain ⟨memory, hm⟩ := s.machine.loadProgram_machine program
      exact .inl ⟨memory, (s.machine.loadProgram program).result, by simp [Machine.perform, hm, load]⟩
    | loadImage image =>
      obtain ⟨memory, hm⟩ := s.machine.loadImage_machine image
      exact .inl ⟨memory, (s.machine.loadImage image).result, by simp [Machine.perform, hm, load]⟩
    | step =>
      by_cases hm : s.machine.status = .running
      · refine .inr ⟨1, Machine.goes_succ_iff.2 ⟨hm, Machine.goes_zero _⟩, by simp, ?_⟩
        simp [Machine.perform, advance, Machine.begun, hm, Machine.resultAfter, Machine.cycles_succ, Machine.course]
      · refine .inr ⟨0, Machine.goes_zero _, fun _ => hm, ?_⟩
        simp [Machine.perform, advance, Machine.begun, hm, Machine.resultAfter, Machine.step_of_not_running,
          Machine.course]
  | run =>
    obtain ⟨reply, hrun, rfl⟩ := Option.map_eq_some_iff.1 h
    obtain ⟨n, hn, rfl⟩ := Machine.run_eq_some_iff.1 hrun
    refine .inr ⟨n, hn.1, ?_, ?_⟩
    · rintro rfl
      exact Machine.stops_zero_iff.1 hn
    · rw [Machine.begun_eq hn.1 (.inr ⟨hn.le_cycleBound, hn.2⟩)]
      rfl

theorem conduct_cons_eq_some_iff :
    s.conduct (command :: commands) = some s' ↔ ∃ t, s.obey command = some t ∧ t.conduct commands = some s' :=
  Option.bind_eq_some_iff

/-- What every command preserves a session preserves. -/
theorem conduct_induction {P : Session → Prop} (hobey : ∀ s command s', s.obey command = some s' → P s → P s')
    (h : s.conduct commands = some s') (hs : P s) : P s' := by
  induction commands generalizing s with
  | nil => exact Option.some.inj h ▸ hs
  | cons command commands ih =>
    obtain ⟨t, ht, h⟩ := conduct_cons_eq_some_iff.1 h
    exact ih h (hobey s command t ht hs)

/-! ## Moments -/

/-- A moment of a session: a machine in which one of its cycles began, or the machine that it has, with the machines in
which the cycles before that began. -/
def Moment (s : Session) (earlier : List Machine) (m : Machine) : Prop :=
  (∃ later, s.begun = earlier ++ m :: later) ∨ earlier = s.begun ∧ m = s.machine

section Moments

variable {sink : Sink} {P : List Machine → Machine → Prop} (hstart : P [] (.start sink))
  (hload : ∀ begun m memory, P begun m → P begun { m with state := { m.state with memory } })
  (hstep : ∀ begun m, m.status = .running → P begun m → P (begun ++ [m]) m.step.machine)
include hstart hload hstep

/-- What holds at the start and survives loads and cycles holds after a session. -/
theorem begun_induction (h : (start sink).conduct commands = some s) : P s.begun s.machine := by
  refine conduct_induction (P := fun s => P s.begun s.machine) (fun s command s' hobey hs => ?_) h hstart
  obtain ⟨memory, result, rfl⟩ | ⟨n, hn, _, rfl⟩ := obey_cases hobey
  · exact hload _ _ _ hs
  · have hcycles : ∀ k ≤ n, P (s.begun ++ s.machine.course k) (s.machine.cycles k) := by
      intro k hk
      induction k with
      | zero => simpa [Machine.course] using hs
      | succ k ih =>
        rw [Machine.course_concat, ← List.append_assoc]
        exact hstep _ _ (hn k hk) (ih (Nat.le_of_succ_le hk))
    exact hcycles n (Nat.le_refl n)

/-- **What holds at the start and survives loads and cycles** holds at every moment of a session. -/
theorem moment_induction (h : (start sink).conduct commands = some s) {earlier : List Machine} {m : Machine}
    (hm : s.Moment earlier m) : P earlier m := by
  have hall := begun_induction
    (P := fun begun m => P begun m ∧ ∀ earlier m' later, begun = earlier ++ m' :: later → P earlier m')
    ⟨hstart, by simp⟩ (fun begun m memory hP => ⟨hload _ _ _ hP.1, hP.2⟩) (fun begun m hrunning hP => ?_) h
  · obtain ⟨later, hlater⟩ | ⟨rfl, rfl⟩ := hm
    · exact hall.2 _ _ _ hlater
    · exact hall.1
  · refine ⟨hstep _ _ hrunning hP.1, fun earlier m' later hlater => ?_⟩
    -- The cycle that was added is the last one, or the moment is an earlier one.
    obtain rfl | ⟨later, last, rfl⟩ := List.eq_nil_or_concat' later
    · obtain ⟨rfl, hm'⟩ := List.append_inj' hlater rfl
      obtain rfl := List.singleton_inj.1 hm'
      exact hP.1
    · rw [← List.cons_append, ← List.append_assoc] at hlater
      exact hP.2 _ _ _ (List.append_inj_left' hlater rfl)

end Moments

end Session

/-! ## Machines that do not run -/

/-- What a machine that does not run answers: its status, but to a load what every machine answers. -/
def Command.answer (status : Status) : Command → Answer
  | .act .step | .run => .cycled (.ok status)
  | .act action => ((Machine.start {}).perform action).2

namespace Session

variable {s s' : Session} {command : Command} {commands : List Command}

/-- A machine that does not run obeys at once, and nothing but memory changes. -/
theorem obey_of_not_running (h : s.machine.status ≠ .running) (command : Command) :
    ∃ memory, s.obey command = some {
      machine := { s.machine with state := { s.machine.state with memory } }
      answers := s.answers ++ [command.answer s.machine.status]
      begun := s.begun } := by
  cases command with
  | act action =>
    by_cases ha : action = .step
    · subst ha
      exact ⟨s.machine.state.memory, by
        simp [obey, Machine.perform, Machine.begun, h, Machine.step_of_not_running, Command.answer]⟩
    · obtain ⟨memory, hm⟩ := Machine.perform_machine_of_ne_step (m := s.machine) ha
      refine ⟨memory, ?_⟩
      rw [obey, hm, Machine.perform_answer_of_ne_step ha (.start {}), if_neg ha, List.append_nil]
      cases action with
      | step => contradiction
      | _ => rfl
  | run =>
    have hstop := Machine.stops_zero_iff.2 h
    have hrun := Machine.run_eq_some_iff.2 ⟨0, hstop, rfl⟩
    refine ⟨s.machine.state.memory, ?_⟩
    rw [obey, hrun, Machine.begun_eq hstop.1 (.inr ⟨Nat.zero_le _, h⟩), Machine.course, List.range_zero, List.map_nil,
      List.append_nil]
    rfl

/-- **A machine that does not run obeys everything**, and all but memory stays as it is. -/
theorem conduct_of_not_running (h : s.machine.status ≠ .running) (commands : List Command) :
    ∃ memory, s.conduct commands = some {
      machine := { s.machine with state := { s.machine.state with memory } }
      answers := s.answers ++ commands.map (Command.answer s.machine.status)
      begun := s.begun } := by
  induction commands generalizing s with
  | nil => exact ⟨s.machine.state.memory, by simp [conduct]⟩
  | cons command commands ih =>
    obtain ⟨memory, hobey⟩ := obey_of_not_running h command
    obtain ⟨memory', hrest⟩ := ih (s := {
      machine := { s.machine with state := { s.machine.state with memory } }
      answers := s.answers ++ [command.answer s.machine.status]
      begun := s.begun }) h
    refine ⟨memory', ?_⟩
    rw [conduct, hobey, Option.bind_some, hrest, List.append_assoc]
    rfl

end Session
end ByteMachine
