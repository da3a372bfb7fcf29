import ByteMachine.Proofs.Run.Failure
import ByteMachine.Proofs.Session.Commands

/-!
# The life of a session

Two records tell whether a machine has halted: its status and its state.

- A machine that runs has not halted, and one whose status is that it halted has (`Consistent`); nothing that was
  printed waits to be written. The two records differ in one case only: the cycle that halts could not write its
  notice (`NoticeRefused`), and so the machine was aborted (`halted_iff_of_conduct`).
- The status changes once at most (`exists_status_change`), and one command of a session answers a fault if the
  machine was aborted, and none otherwise (`fails_add_aborted`). `session_lifecycle` puts this together.

All of it is one invariant of sessions (`Session.Lawful`), which every command preserves.
-/

namespace ByteMachine

namespace Machine

/-- What the status says of the state is true, and nothing waits to be written. -/
structure Consistent (m : Machine) : Prop where
  printed : m.state.printed = none
  running : m.status = .running → m.state.halted = false
  halted : m.status = .halted → m.state.halted = true

/-- The next cycle halts the machine, but the notice of that is refused. -/
def NoticeRefused (m : Machine) : Prop :=
  m.executed? = some .hlt ∧ ∃ refusal, m.step.result = .error (.output refusal)

variable {m : Machine} {n : Nat}

/-! ## One cycle -/

/-- A cycle keeps a machine consistent. -/
theorem Consistent.step (h : m.Consistent) : m.step.machine.Consistent := by
  obtain ⟨i, s, hs⟩ | ⟨fault, hf⟩ | hm := step_cases m
  · rw [hs.machine_eq]
    rcases m.sink.write s.output with ⟨sink, _ | refusal⟩
    · constructor <;> cases hh : s.halted <;> simp [conclude, State.settled, hh]
    · constructor <;> simp [conclude, State.settled]
  · obtain ⟨log, hstep⟩ := step_of_fault hf
    rw [hstep]
    constructor <;> simp [abort, h.printed]
  · rwa [step_of_not_running hm]

/-- The state has halted if it had before or the cycle carries out the instruction to halt. -/
theorem step_halted_iff (m : Machine) :
    m.step.machine.state.halted = true ↔ m.state.halted = true ∨ m.executed? = some .hlt := by
  cases hi : m.executed? with
  | none => simp [step_state_of_executed?_eq_none hi]
  | some i =>
    obtain ⟨s, hs⟩ := executed?_eq_some_iff.1 hi
    rw [hs.step_state, State.settled, hs.effect.halted]
    simp

/-- A machine that was aborted although it has halted either was so before, or has its notice refused now. -/
theorem Consistent.step_refused_iff (h : m.Consistent) :
    (m.step.machine.status = .aborted ∧ m.step.machine.state.halted = true) ↔
      (m.status = .aborted ∧ m.state.halted = true) ∨ m.NoticeRefused := by
  by_cases hm : m.status = .running
  · have hfalse : m.state.halted = false := h.running hm
    rw [step_halted_iff, hfalse, hm, NoticeRefused]
    obtain ⟨fault, hresult, hstatus⟩ | ⟨hresult, hstatus⟩ := step_result_of_running hm
    · have hfault (hi : m.executed? = some .hlt) : ∃ refusal, fault = .output refusal := by
        obtain ⟨s, hs⟩ := executed?_eq_some_iff.1 hi
        obtain ⟨refusal, _, hrefusal⟩ := hs.step_result_eq_error_iff.1 hresult
        exact ⟨refusal, hrefusal⟩
      rw [hresult]
      simpa [hstatus] using hfault
    · simp [hresult, hstatus]
  · have hi : m.executed? = none := if_neg hm
    rw [step_of_not_running hm, NoticeRefused, hi]
    simp

/-! ## Cycles -/

theorem Consistent.cycles (h : m.Consistent) (n : Nat) : (m.cycles n).Consistent := by
  induction n with
  | zero => exact h
  | succ n ih => exact ih.step

theorem cycles_halted_iff (m : Machine) (n : Nat) : (m.cycles n).state.halted = true ↔
    m.state.halted = true ∨ ∃ m' ∈ m.course n, m'.executed? = some .hlt :=
  cycles_iff (P := fun m => m.state.halted = true) (fun k => (m.cycles k).step_halted_iff) n

theorem Consistent.cycles_refused_iff (h : m.Consistent) (n : Nat) :
    ((m.cycles n).status = .aborted ∧ (m.cycles n).state.halted = true) ↔
      (m.status = .aborted ∧ m.state.halted = true) ∨ ∃ m' ∈ m.course n, m'.NoticeRefused :=
  cycles_iff (P := fun m => m.status = .aborted ∧ m.state.halted = true) (fun k => (h.cycles k).step_refused_iff) n

end Machine

/-! ## Failures -/

/-- A cycle or a run has failed. -/
def Answer.fails : Answer → Bool
  | .cycled (.error _) => true
  | _ => false

/-- A machine is aborted by the cycle that fails, and not before. -/
theorem Machine.fails_add_aborted {m : Machine} {n : Nat} (h : m.Goes n) :
    (if (Answer.cycled (m.resultAfter n)).fails then 1 else 0) + (if m.status = .aborted then 1 else 0) =
      if (m.cycles n).status = .aborted then 1 else 0 := by
  cases n with
  | zero => exact Nat.zero_add _
  | succ n =>
    have hm : m.status = .running := h 0 (Nat.succ_pos n)
    rw [resultAfter, cycles_succ]
    obtain ⟨fault, hresult, hstatus⟩ | ⟨hresult, hstatus⟩ := step_result_of_running (h n (Nat.lt_succ_self n))
    · simp [hresult, hstatus, hm, Answer.fails]
    · simp [hresult, hstatus, hm, Answer.fails]

namespace Session

/-- How many cycles and runs have failed. -/
def failures (s : Session) : Nat := s.answers.countP Answer.fails

/-- What is true of a session at any time. -/
structure Lawful (s : Session) : Prop where
  consistent : s.machine.Consistent
  failures : s.failures = if s.machine.status = .aborted then 1 else 0
  halted : s.machine.state.halted = true ↔ ∃ m ∈ s.begun, m.executed? = some .hlt
  refused : (s.machine.status = .aborted ∧ s.machine.state.halted = true) ↔ ∃ m ∈ s.begun, m.NoticeRefused

variable {sink : Sink} {s s' : Session} {command : Command} {commands : List Command}

theorem lawful_start (sink : Sink) : (start sink).Lawful where
  consistent := ⟨rfl, fun _ => rfl, nofun⟩
  failures := rfl
  halted := by simp [start, Machine.start, State.initial]
  refused := by simp [start, Machine.start]

theorem Lawful.load (h : s.Lawful) (memory : Memory) (result : Except LoadFault Nat) :
    (s.load memory result).Lawful where
  consistent := ⟨h.consistent.printed, h.consistent.running, h.consistent.halted⟩
  failures := by
    rw [Session.failures, Session.load, List.countP_append]
    exact h.failures
  halted := h.halted
  refused := h.refused

theorem Lawful.advance {n : Nat} (h : s.Lawful) (hn : s.machine.Goes n) : (s.advance n).Lawful where
  consistent := h.consistent.cycles n
  failures := by
    have htally := Machine.fails_add_aborted hn
    rw [← h.failures, Nat.add_comm] at htally
    rw [Session.failures, Session.advance, List.countP_append, List.countP_singleton]
    exact htally
  halted := by
    rw [Session.advance, s.machine.cycles_halted_iff n, h.halted]
    simp [or_and_right, exists_or]
  refused := by
    rw [Session.advance, h.consistent.cycles_refused_iff n, h.refused]
    simp [or_and_right, exists_or]

/-- **Every command preserves the laws.** -/
theorem Lawful.obey (h : s.Lawful) (hobey : s.obey command = some s') : s'.Lawful := by
  obtain ⟨memory, result, rfl⟩ | ⟨n, hn, _, rfl⟩ := obey_cases hobey
  · exact h.load memory result
  · exact h.advance hn

theorem lawful_of_conduct (h : (start sink).conduct commands = some s) : s.Lawful :=
  conduct_induction (fun _ _ _ hobey hs => hs.obey hobey) h (lawful_start sink)

/-- In a session a machine that runs has not halted, and nothing waits to be written. -/
theorem not_halted_of_running (h : (start sink).conduct commands = some s) (hm : s.machine.status = .running) :
    s.machine.state.printed = none ∧ s.machine.state.halted = false :=
  have hconsistent := (lawful_of_conduct h).consistent
  ⟨hconsistent.printed, hconsistent.running hm⟩

/-- **What a sink can refuse in a session** is a value to print or the notice, and nothing else. -/
theorem op_of_refused (h : (start sink).conduct commands = some s) {refusal : Refusal}
    (hresult : s.machine.step.result = .error (.output refusal)) :
    s.machine.state.fetch.op = Instruction.opcode .prn ∧ s.machine.state.fetch.a.toNat < 8 ∨
      s.machine.state.fetch.op = Instruction.opcode .hlt := by
  have hrunning : s.machine.status = .running := by
    by_contra hm
    rw [Machine.step_of_not_running hm] at hresult
    contradiction
  obtain ⟨hprinted, hhalted⟩ := not_halted_of_running h hrunning
  exact Machine.step_output hprinted hhalted hresult

/-! ## Halting -/

/-- **A machine counts as halted in its status and in its state alike**, unless its notice was refused. -/
theorem halted_iff_of_conduct (h : (start sink).conduct commands = some s) :
    (s.machine.state.halted = true ↔ ∃ m ∈ s.begun, m.executed? = some .hlt) ∧
      ((s.machine.status = .aborted → s.machine.state.halted = false) ↔ ∀ m ∈ s.begun, ¬ m.NoticeRefused) ∧
      ((s.machine.status = .halted ↔ s.machine.state.halted = true) ↔ ∀ m ∈ s.begun, ¬ m.NoticeRefused) := by
  have hlawful := lawful_of_conduct h
  have hrefused : (∀ m ∈ s.begun, ¬ m.NoticeRefused) ↔
      ¬ (s.machine.status = .aborted ∧ s.machine.state.halted = true) := by
    rw [hlawful.refused]
    simp
  refine ⟨hlawful.halted, ?_, ?_⟩
  · rw [hrefused]
    simp
  · rw [hrefused]
    have hrunning := hlawful.consistent.running
    have hhalted := hlawful.consistent.halted
    cases hm : s.machine.status <;> simp_all

/-- With room for the notice a program of one instruction halts its machine. -/
theorem halted_iff_of_conduct_withRoom : ∃ s,
    (start { bound := some (15, .full) }).conduct [.act (.loadProgram [0x01]), .run] = some s ∧
      s.machine.status = .halted ∧ (∃ m ∈ s.begun, m.executed? = some .hlt) ∧ ∀ m ∈ s.begun, ¬ m.NoticeRefused := by
  obtain ⟨s, hs, hmachine⟩ := Option.map_eq_some_iff.1 (by decide +kernel :
    ((start { bound := some (15, .full) }).conduct [.act (.loadProgram [0x01]), .run]).map
      (fun s => (s.machine.status, s.machine.state.halted)) = some (.halted, true))
  obtain ⟨hstatus, hhalted⟩ := Prod.mk.inj hmachine
  obtain ⟨hexecuted, _, hboth⟩ := halted_iff_of_conduct hs
  exact ⟨s, hs, hstatus, hexecuted.1 hhalted, hboth.1 ⟨fun _ => hhalted, fun _ => hstatus⟩⟩

/-- Without room for the notice the machine is aborted, although its state has halted. -/
theorem aborted_and_halted : ∃ s,
    (start { bound := some (0, .full) }).conduct [.act (.loadProgram [1]), .act .step] = some s ∧
      s.machine.status = .aborted ∧ s.machine.state.halted = true := by
  refine ⟨_, rfl, ?_⟩
  decide +kernel

/-! ## The life of a session -/

/-- The status changes once at most, and then from running to something else. -/
theorem exists_status_change (h : s.conduct commands = some s') :
    ∃ n status, status ≠ .running ∧ ∀ i ≤ commands.length, ∃ t, s.conduct (commands.take i) = some t ∧
      t.machine.status = if i < n then .running else status := by
  induction commands generalizing s with
  | nil =>
    refine ⟨if s.machine.status = .running then 1 else 0,
      if s.machine.status = .running then .halted else s.machine.status, by split <;> simp_all, fun i hi => ?_⟩
    obtain rfl := Nat.le_zero.1 hi
    exact ⟨s, rfl, by split <;> simp_all⟩
  | cons command commands ih =>
    by_cases hm : s.machine.status = .running
    · obtain ⟨t, hobey, hrest⟩ := conduct_cons_eq_some_iff.1 h
      obtain ⟨n, status, hstatus, hchange⟩ := ih hrest
      refine ⟨n + 1, status, hstatus, fun i hi => ?_⟩
      cases i with
      | zero => exact ⟨s, rfl, by rw [hm, if_pos (Nat.succ_pos n)]⟩
      | succ i =>
        obtain ⟨u, hu, hustatus⟩ := hchange i (Nat.le_of_succ_le_succ hi)
        refine ⟨u, conduct_cons_eq_some_iff.2 ⟨t, hobey, hu⟩, ?_⟩
        simpa using hustatus
    · refine ⟨0, s.machine.status, hm, fun i _ => ?_⟩
      obtain ⟨memory, hconduct⟩ := conduct_of_not_running hm ((command :: commands).take i)
      exact ⟨_, hconduct, rfl⟩

/-- **The life of a session.** The status is running until some command changes it for good. At most one cycle or run
fails, and one does exactly if the machine was aborted. While the machine runs its state has not halted, and when its
status is that it halted its state has. A machine that does not run answers its status to cycles and runs and to loads
what every machine answers, and nothing of it changes but memory. -/
theorem session_lifecycle (h : (start sink).conduct commands = some s) :
    (∃ n status, status ≠ .running ∧ ∀ i ≤ commands.length, ∃ t, (start sink).conduct (commands.take i) = some t ∧
      t.machine.status = if i < n then .running else status) ∧
    s.failures ≤ 1 ∧
    (s.machine.status = .aborted ↔ s.failures = 1) ∧
    (s.machine.status = .running → s.machine.state.halted = false) ∧
    (s.machine.status = .halted → s.machine.state.halted = true) ∧
    (s.machine.status ≠ .running → ∀ more, ∃ memory, s.conduct more = some {
      machine := { s.machine with state := { s.machine.state with memory } }
      answers := s.answers ++ more.map (Command.answer s.machine.status)
      begun := s.begun }) := by
  have hlawful := lawful_of_conduct h
  have hfailures := hlawful.failures
  refine ⟨exists_status_change h, ?_, ?_, hlawful.consistent.running, hlawful.consistent.halted, conduct_of_not_running⟩
  · split at hfailures <;> omega
  · split at hfailures <;> simp_all

/-- A byte that is no opcode aborts the machine; after that a program can still be loaded, but does not run. -/
theorem session_lifecycle_noOpcode : ∃ s,
    (start {}).conduct [.act (.loadProgram [0xFF]), .run, .act .step] = some s ∧ s.machine.status = .aborted ∧
      s.failures = 1 ∧ ∃ memory, s.conduct [.act (.loadProgram [0x01]), .run] = some {
        machine := { s.machine with state := { s.machine.state with memory } }
        answers := s.answers ++ [.loaded (.ok 1), .cycled (.ok .aborted)]
        begun := s.begun } := by
  obtain ⟨s, hs, hstatus⟩ := Option.map_eq_some_iff.1 (by decide +kernel :
    ((start {}).conduct [.act (.loadProgram [0xFF]), .run, .act .step]).map (·.machine.status) = some .aborted)
  obtain ⟨_, _, hfailures, _, _, hrest⟩ := session_lifecycle hs
  obtain ⟨memory, hmore⟩ := hrest (by simp [hstatus]) [.act (.loadProgram [0x01]), .run]
  rw [hstatus] at hmore
  exact ⟨s, hs, hstatus, hfailures.1 hstatus, memory, hmore⟩

end Session
end ByteMachine
