import ByteMachine.Proofs.Run.Iteration

/-!
# Showing a run as it goes

The command shows the text and the messages of each cycle at once and goes on with an empty sink. A cycle writes and
logs the same whatever its sink holds (`step_emptied`, `step_log_emptied`), so what the cycles show makes up the text
and the log of the run (`aloud_iff`).
-/

namespace ByteMachine.Machine

/-- A run that shows each cycle at once shows this text and these messages in all, and ends with this result. -/
inductive Aloud : Machine → String → List Message → Except Fault Status → Prop
  | ends {m : Machine} {text : String} {log : List Message} {result : Except Fault Status} :
      m.turn = ⟨text, log, .inr result⟩ → Aloud m text log result
  | goes {m m' : Machine} {text text' : String} {log log' : List Message} {result : Except Fault Status} :
      m.turn = ⟨text, log, .inl m'⟩ → Aloud m' text' log' result → Aloud m (text ++ text') (log ++ log') result

variable {m : Machine} {n : Nat} {text : String} {log : List Message} {result : Except Fault Status}

/-- **A cycle writes the same on an empty sink**, and leaves the same state and result. -/
theorem step_emptied (hfree : m.sink.bound = none) :
    m.step.machine.emptied = m.emptied.step.machine.emptied ∧
      m.step.machine.sink = ⟨m.sink.text ++ m.emptied.step.machine.sink.text, none⟩ ∧
      m.step.result = m.emptied.step.result := by
  obtain ⟨i, s, hs⟩ | ⟨fault, hf⟩ | hm := step_cases m
  · have hs' : m.emptied.Executes i s := ⟨hs.running, hs.decoded, hs.effect⟩
    obtain ⟨hmachine, hresult⟩ := hs.step_of_unbounded hfree
    obtain ⟨hmachine', hresult'⟩ := hs'.step_of_unbounded rfl
    rw [hmachine, hmachine', hresult, hresult']
    simp [emptied]
  · have hf' : m.emptied.fault? = some fault := hf
    obtain ⟨log, hstep⟩ := step_of_fault hf
    obtain ⟨log', hstep'⟩ := step_of_fault hf'
    rw [hstep, hstep']
    simp [abort, emptied, ← hfree]
  · have hm' : m.emptied.status ≠ .running := hm
    rw [step_of_not_running hm, step_of_not_running hm']
    simp [emptied, ← hfree]

/-- A cycle logs the same on an empty sink. -/
theorem step_log_emptied (hfree : m.sink.bound = none) : m.step.log = m.emptied.step.log := by
  by_cases hm : m.status = .running
  · have hm' : m.emptied.status = .running := hm
    cases hd : Instruction.decode m.state.fetch.op with
    | none =>
      rw [step_of_decode_none hm hd, step_of_decode_none hm' hd]
      rfl
    | some i =>
      cases he : execute i m.state.fetch m.state with
      | error trap =>
        rw [step_of_trap hm hd he, step_of_trap hm' hd he]
        rfl
      | ok s =>
        rw [step_of_execute hm hd he, step_of_execute hm' hd he, commit_log fun _ => .inr hfree,
          commit_log fun _ => .inr rfl]
        rfl
  · have hm' : m.emptied.status ≠ .running := hm
    rw [step_of_not_running hm, step_of_not_running hm']

/-- A cycle answers that the machine runs iff it still does. -/
theorem step_result_eq_running_iff (hm : m.status = .running) :
    m.step.result = .ok .running ↔ m.step.machine.status = .running := by
  obtain ⟨fault, hresult, hstatus⟩ | ⟨hresult, _⟩ := step_result_of_running hm
  · simp [hresult, hstatus]
  · simp [hresult]

/-- A run is shown as its cycles are. -/
theorem Stops.aloud (h : m.Stops n) (hm : m.status = .running) (hfree : m.sink.bound = none) :
    ∃ text, m.emptied.Aloud text (m.logAfter n) (m.resultAfter n) ∧ (m.cycles n).sink.text = m.sink.text ++ text := by
  induction n generalizing m with
  | zero => exact absurd hm (stops_zero_iff.1 h)
  | succ n ih =>
    obtain ⟨hemptied, hsink, hresult⟩ := step_emptied hfree
    have hlog := step_log_emptied hfree
    have hrest := (stops_succ_iff.1 h).2
    rw [logAfter_succ]
    by_cases hrunning : m.step.result = .ok .running
    · have hstatus := (step_result_eq_running_iff hm).1 hrunning
      obtain ⟨rest, haloud, htext⟩ := ih hrest hstatus (by rw [hsink])
      have hturn := turn_of_running (hresult.symm.trans hrunning)
      rw [← hemptied, ← hlog] at hturn
      refine ⟨m.emptied.step.machine.sink.text ++ rest, ?_, ?_⟩
      · rw [resultAfter_step (hrunning.trans (congrArg _ hstatus.symm))]
        exact .goes hturn haloud
      · rw [← cycles_step, htext, hsink, String.append_assoc]
    · have hstatus := mt (step_result_eq_running_iff hm).2 hrunning
      obtain rfl := hrest.unique (stops_zero_iff.2 hstatus)
      have hturn := turn_of_ne (hresult ▸ hrunning)
      rw [← hlog, ← hresult] at hturn
      refine ⟨m.emptied.step.machine.sink.text, ?_, ?_⟩
      · rw [resultAfter, cycles_zero, logAfter, course, List.range_zero, List.map_nil, List.flatMap_nil,
          List.append_nil]
        exact .ends hturn
      · rw [cycles_succ, cycles_zero, hsink]

/-- What is shown is a run. -/
theorem Aloud.stops (h : m.emptied.Aloud text log result) (hm : m.status = .running) (hfree : m.sink.bound = none) :
    ∃ n, m.Stops n ∧ m.resultAfter n = result ∧ m.logAfter n = log ∧
      (m.cycles n).sink.text = m.sink.text ++ text := by
  generalize hempty : m.emptied = m₀ at h
  induction h generalizing m with
  | @ends m₀ text log result hturn =>
    subst hempty
    obtain ⟨_, hsink, hresult⟩ := step_emptied hfree
    have hrunning : m.step.result ≠ .ok .running := by
      intro hrunning
      simp [turn_of_running (hresult.symm.trans hrunning)] at hturn
    rw [turn_of_ne (hresult ▸ hrunning), ← step_log_emptied hfree, Turn.mk.injEq] at hturn
    obtain ⟨rfl, rfl, hinr⟩ := hturn
    obtain rfl := Sum.inr.inj hinr
    have hstatus := mt (step_result_eq_running_iff hm).2 hrunning
    refine ⟨1, stops_succ_iff.2 ⟨hm, stops_zero_iff.2 hstatus⟩, hresult, ?_, by rw [cycles_succ, cycles_zero, hsink]⟩
    rw [logAfter_succ]
    exact List.append_nil _
  | @goes m₀ m' text text' log log' result hturn haloud ih =>
    subst hempty
    obtain ⟨hemptied, hsink, hresult⟩ := step_emptied hfree
    have hrunning : m.step.result = .ok .running := by
      by_contra hrunning
      simp [turn_of_ne (hresult ▸ hrunning)] at hturn
    rw [turn_of_running (hresult.symm.trans hrunning), ← hemptied, ← step_log_emptied hfree, Turn.mk.injEq] at hturn
    obtain ⟨rfl, rfl, hinl⟩ := hturn
    have hstatus := (step_result_eq_running_iff hm).1 hrunning
    obtain ⟨n, hn, hlast, hlog, htext⟩ := ih hstatus (by rw [hsink]) (Sum.inl.inj hinl)
    refine ⟨n + 1, stops_succ_iff.2 ⟨hm, hn⟩, ?_, ?_, ?_⟩
    · rw [resultAfter_step (hrunning.trans (congrArg _ hstatus.symm)), hlast]
    · rw [logAfter_succ, hlog]
    · rw [← cycles_step, htext, hsink, String.append_assoc]

/-- **A run that is shown as it goes is a run**: it shows in all what the machine of the run has written and what the
run has logged, and ends with its result. -/
theorem aloud_iff (hm : m.status = .running) (hsink : m.sink = {}) : m.Aloud text log result ↔
    ∃ reply, m.run = some reply ∧ reply.machine.sink.text = text ∧ reply.log = log ∧ reply.result = result := by
  have hfree : m.sink.bound = none := by rw [hsink]
  have hempty : m.emptied = m := by rw [emptied, ← hsink]
  constructor
  · intro h
    rw [← hempty] at h
    obtain ⟨n, hn, hresult, hlog, htext⟩ := h.stops hm hfree
    rw [hsink, String.empty_append] at htext
    exact ⟨_, run_of_stops hn, htext, hlog, hresult⟩
  · rintro ⟨reply, hrun, rfl, rfl, rfl⟩
    obtain ⟨n, hn, rfl⟩ := run_eq_some_iff.1 hrun
    obtain ⟨text, haloud, htext⟩ := hn.aloud hm hfree
    rw [hsink, String.empty_append] at htext
    rw [hempty, ← htext] at haloud
    exact haloud

end ByteMachine.Machine
