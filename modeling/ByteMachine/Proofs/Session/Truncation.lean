import ByteMachine.Proofs.Output.Ascii
import ByteMachine.Proofs.Session.Actions

/-!
# A sink that fills up only truncates

The same session on a sink that takes `limit` bytes in all and on one that takes everything: while the text fits, both
go the same way (`step_limited`, `play_limited`). The first action whose output does not fit is a cycle; it fails, with
the state that it would have had and as much of the text as fits (`step_limited_of_gt`), and after it nothing is
written any more. `limited_session` puts this together.
-/

namespace ByteMachine

/-- A bounded sink takes of a text what fits, and refuses if that is not all. -/
theorem Sink.write_of_bounded {text : String} {limit : Nat} (refusal : Refusal) (t : String) (h : text.length ≤ limit) :
    Sink.write ⟨text, some (limit, refusal)⟩ t =
      (⟨String.ofList ((text ++ t).toList.take limit), some (limit, refusal)⟩,
        if (text ++ t).length ≤ limit then none else some refusal) := by
  have htake : (text ++ t).toList.take limit = text.toList ++ t.toList.take (limit - text.length) := by
    rw [String.toList_append, List.take_append, String.length_toList,
      List.take_of_length_le (by rwa [String.length_toList])]
  rw [htake, String.ofList_append, String.ofList_toList, write, String.length_append]
  by_cases ht : t.length ≤ limit - text.length
  · have hall : t.toList.take (limit - text.length) = t.toList :=
      List.take_of_length_le (by rwa [String.length_toList])
    rw [if_pos (by omega), hall, String.ofList_toList]
    exact if_pos ht
  · rw [if_neg (by omega)]
    exact if_neg ht

namespace Machine

/-- The same machine on a sink that takes so many characters in all. -/
def limited (m : Machine) (limit : Nat) (refusal : Refusal) : Machine :=
  { m with sink := { m.sink with bound := some (limit, refusal) } }

variable {m : Machine} {i : Instruction} {s : State} {limit : Nat}

/-! ## One cycle -/

theorem Executes.limited (h : m.Executes i s) (limit : Nat) (refusal : Refusal) :
    (m.limited limit refusal).Executes i s := ⟨h.running, h.decoded, h.effect⟩

/-- A cycle that carries out no instruction does not look at the sink. -/
theorem step_limited_of_not_executes (h : ¬ ∃ i s, m.Executes i s) (limit : Nat) (refusal : Refusal) :
    m.step.machine.sink = m.sink ∧ (m.limited limit refusal).step.machine = m.step.machine.limited limit refusal ∧
      (m.limited limit refusal).step.result = m.step.result ∧
      ∀ refusal', m.step.result ≠ .error (.output refusal') := by
  obtain hx | ⟨fault, hf⟩ | hm := step_cases m
  · contradiction
  · have hf' : (m.limited limit refusal).fault? = some fault := hf
    obtain ⟨log, hstep⟩ := step_of_fault hf
    obtain ⟨log', hstep'⟩ := step_of_fault hf'
    rw [hstep, hstep']
    refine ⟨rfl, rfl, rfl, fun refusal' herr => ?_⟩
    cases herr
    exact fault?_ne_output refusal' hf
  · have hm' : (m.limited limit refusal).status ≠ .running := hm
    rw [step_of_not_running hm, step_of_not_running hm']
    exact ⟨rfl, rfl, rfl, fun _ => by simp⟩

/-- A cycle only adds to the text of a sink that takes everything, and never fails for it. -/
theorem step_free (hm : m.sink.bound = none) :
    (∃ t, Ascii t ∧ m.step.machine.sink = ⟨m.sink.text ++ t, none⟩) ∧
      ∀ refusal, m.step.result ≠ .error (.output refusal) := by
  by_cases hx : ∃ i s, m.Executes i s
  · obtain ⟨i, s, hs⟩ := hx
    obtain ⟨hmachine, hresult⟩ := hs.step_of_unbounded hm
    rw [hmachine, hresult]
    exact ⟨⟨s.output, ascii_output s, rfl⟩, fun _ => by simp⟩
  · obtain ⟨hsink, _, _, hresult⟩ := step_limited_of_not_executes hx 0 .full
    refine ⟨⟨"", ascii_empty, ?_⟩, hresult⟩
    rw [hsink, String.append_empty, ← hm]

/-- While the text fits, a cycle goes the same way. -/
theorem step_limited (refusal : Refusal) (hm : m.sink.bound = none) (hfit : m.sink.text.length ≤ limit)
    (h : m.step.machine.sink.text.length ≤ limit) :
    (m.limited limit refusal).step.machine = m.step.machine.limited limit refusal ∧
      (m.limited limit refusal).step.result = m.step.result := by
  by_cases hx : ∃ i s, m.Executes i s
  · obtain ⟨i, s, hs⟩ := hx
    obtain ⟨hmachine, hresult⟩ := hs.step_of_unbounded hm
    rw [hmachine] at h ⊢
    have hstep := (hs.limited limit refusal).step_machine
    have hall : (m.sink.text ++ s.output).toList.take limit = (m.sink.text ++ s.output).toList :=
      List.take_of_length_le (by rwa [String.length_toList])
    rw [limited, Sink.write_of_bounded refusal _ hfit, if_pos h, hall, String.ofList_toList, conclude,
      Prod.mk.injEq] at hstep
    rw [hresult]
    exact hstep
  · obtain ⟨_, hmachine, hresult, _⟩ := step_limited_of_not_executes hx limit refusal
    exact ⟨hmachine, hresult⟩

/-- A cycle whose output does not fit fails, with the state that it would have had and the text that fits. -/
theorem step_limited_of_gt (refusal : Refusal) (hm : m.sink.bound = none) (hfit : m.sink.text.length ≤ limit)
    (h : limit < m.step.machine.sink.text.length) :
    (m.limited limit refusal).step.machine =
        ⟨m.step.machine.state, .aborted,
          ⟨String.ofList (m.step.machine.sink.text.toList.take limit), some (limit, refusal)⟩⟩ ∧
      (m.limited limit refusal).step.result = .error (.output refusal) ∧ m.step.machine.state.printed = none := by
  by_cases hx : ∃ i s, m.Executes i s
  · obtain ⟨i, s, hs⟩ := hx
    obtain ⟨hmachine, _⟩ := hs.step_of_unbounded hm
    rw [hmachine] at h ⊢
    have hstep := (hs.limited limit refusal).step_machine
    rw [limited, Sink.write_of_bounded refusal _ hfit, if_neg (Nat.not_le.2 h), conclude, Prod.mk.injEq] at hstep
    exact ⟨hstep.1, hstep.2, rfl⟩
  · obtain ⟨hsink, _⟩ := step_limited_of_not_executes hx limit refusal
    rw [hsink] at h
    omega

/-! ## One action -/

variable {action : Action}

theorem perform_free (hm : m.sink.bound = none) (action : Action) :
    (∃ t, Ascii t ∧ (m.perform action).1.sink = ⟨m.sink.text ++ t, none⟩) ∧
      ∀ refusal, (m.perform action).2 ≠ .cycled (.error (.output refusal)) := by
  by_cases ha : action = .step
  · obtain ⟨hsink, hresult⟩ := step_free hm
    rw [ha]
    exact ⟨hsink, fun refusal h => hresult refusal (Answer.cycled.inj h)⟩
  · obtain ⟨memory, hmachine⟩ := perform_machine_of_ne_step (m := m) ha
    refine ⟨⟨"", ascii_empty, ?_⟩, fun refusal h => ?_⟩
    · rw [hmachine, String.append_empty, ← hm]
    · cases action with
      | step => contradiction
      | _ => cases h

theorem perform_limited (refusal : Refusal) (hm : m.sink.bound = none) (hfit : m.sink.text.length ≤ limit)
    (h : (m.perform action).1.sink.text.length ≤ limit) :
    (m.limited limit refusal).perform action =
      ((m.perform action).1.limited limit refusal, (m.perform action).2) := by
  by_cases ha : action = .step
  · subst ha
    obtain ⟨hmachine, hresult⟩ := step_limited refusal hm hfit h
    rw [perform, hmachine, hresult]
    rfl
  · obtain ⟨memory, hmachine⟩ := perform_machine_of_ne_step (m := m) ha
    rw [limited, perform_sink_of_ne_step ha, limited, hmachine]

theorem eq_step_of_gt (hfit : m.sink.text.length ≤ limit) (h : limit < (m.perform action).1.sink.text.length) :
    action = .step := by
  refine Decidable.byContradiction fun ha => ?_
  obtain ⟨memory, hmachine⟩ := perform_machine_of_ne_step (m := m) ha
  rw [hmachine] at h
  exact Nat.not_le.2 h hfit

/-! ## Sessions -/

/-- A session only adds to the text of a sink that takes everything, and no action fails for it. -/
theorem play_free (hm : m.sink.bound = none) (actions : List Action) :
    (∃ t, Ascii t ∧ (m.play actions).sink = ⟨m.sink.text ++ t, none⟩) ∧
      ∀ refusal, .cycled (.error (.output refusal)) ∉ m.answers actions := by
  induction actions generalizing m with
  | nil => exact ⟨⟨"", ascii_empty, by rw [play_nil, String.append_empty, ← hm]⟩, fun _ => List.not_mem_nil⟩
  | cons action actions ih =>
    obtain ⟨⟨t, ht, hsink⟩, hanswer⟩ := perform_free hm action
    obtain ⟨⟨u, hu, hrest⟩, hanswers⟩ := ih (m := (m.perform action).1) (by rw [hsink])
    refine ⟨⟨t ++ u, ht.append hu, ?_⟩, fun refusal h => ?_⟩
    · rw [play_cons, hrest, hsink, String.append_assoc]
    · obtain h | h := List.mem_cons.1 h
      · exact hanswer refusal h.symm
      · exact hanswers refusal h

/-- While the text fits, a session goes the same way. -/
theorem play_limited (refusal : Refusal) (hm : m.sink.bound = none) {actions : List Action}
    (h : (m.play actions).sink.text.length ≤ limit) :
    (m.limited limit refusal).play actions = (m.play actions).limited limit refusal ∧
      (m.limited limit refusal).answers actions = m.answers actions := by
  induction actions generalizing m with
  | nil => exact ⟨rfl, rfl⟩
  | cons action actions ih =>
    obtain ⟨⟨t, _, hsink⟩, _⟩ := perform_free hm action
    have hm' : (m.perform action).1.sink.bound = none := by rw [hsink]
    obtain ⟨⟨u, _, hrest⟩, _⟩ := play_free hm' actions
    have hfit' : (m.perform action).1.sink.text.length ≤ limit := by
      rw [play_cons, hrest, String.length_append] at h
      omega
    have hfit : m.sink.text.length ≤ limit := by
      rw [hsink, String.length_append] at hfit'
      omega
    obtain ⟨hmachine, hanswers⟩ := ih hm' h
    rw [play_cons, answers, perform_limited refusal hm hfit hfit']
    exact ⟨hmachine, congrArg _ hanswers⟩

end Machine

/-- An empty sink that takes so many characters in all. -/
def Sink.ofLimit (limit : Nat) (refusal : Refusal) : Sink := { bound := some (limit, refusal) }

namespace Machine

/-- A machine with this sink after the first `i` actions of a session. -/
def after (sink : Sink) (actions : List Action) (i : Nat) : Machine := (start sink).play (actions.take i)

theorem after_free (actions : List Action) (i : Nat) :
    (after {} actions i).sink.bound = none ∧ Ascii (after {} actions i).sink.text := by
  obtain ⟨⟨t, ht, hsink⟩, _⟩ := play_free (m := start {}) rfl (actions.take i)
  rw [after, hsink]
  exact ⟨rfl, ascii_empty.append ht⟩

theorem after_succ {actions : List Action} {i : Nat} {action : Action} (h : actions[i]? = some action) (sink : Sink) :
    after sink actions (i + 1) = ((after sink actions i).perform action).1 := by
  rw [after, List.take_add_one, h, play_append]
  rfl

/-- Once a machine does not run, its status and its sink stay what they are. -/
theorem after_of_not_running {sink : Sink} {actions : List Action} {i j : Nat}
    (h : (after sink actions i).status ≠ .running) (hj : i ≤ j) :
    (after sink actions j).status = (after sink actions i).status ∧
      (after sink actions j).sink = (after sink actions i).sink := by
  obtain ⟨k, rfl⟩ := Nat.exists_eq_add_of_le hj
  have hsplit : after sink actions (i + k) = (after sink actions i).play ((actions.drop i).take k) := by
    rw [after, List.take_add, play_append]
    rfl
  rw [hsplit]
  exact play_of_not_running h _

/-- While the text fits, the bounded session has the same machine but for the bound. -/
theorem after_ofLimit {refusal : Refusal} {actions : List Action} {i : Nat}
    (h : (after {} actions i).sink.text.length ≤ limit) :
    after (.ofLimit limit refusal) actions i = (after {} actions i).limited limit refusal :=
  (play_limited (m := start {}) refusal rfl h).1

/-- **A sink that fills up only truncates.** While all text fits into the limit, the session on the bounded sink has the
same answers, states and texts as the one on a sink that takes everything. The first action whose text does not fit is a
cycle that fails for its output. It leaves exactly the bytes that fit and the state that it would have had anyway, and
the sink and the status stay what they are from then on. -/
theorem limited_session (limit : Nat) (refusal : Refusal) (actions : List Action) (i : Nat) :
    ((after {} actions i).sink.bytes.length ≤ limit →
      (start (.ofLimit limit refusal)).answers (actions.take i) = (start {}).answers (actions.take i) ∧
      (∀ refusal', .cycled (.error (.output refusal')) ∉ (start {}).answers (actions.take i)) ∧
      (after (.ofLimit limit refusal) actions i).state = (after {} actions i).state ∧
      (after (.ofLimit limit refusal) actions i).status = (after {} actions i).status ∧
      (after (.ofLimit limit refusal) actions i).sink.text = (after {} actions i).sink.text) ∧
    ((after {} actions i).sink.bytes.length ≤ limit → limit < (after {} actions (i + 1)).sink.bytes.length →
      actions[i]? = some .step ∧
      (after (.ofLimit limit refusal) actions i).step.result = .error (.output refusal) ∧
      (after (.ofLimit limit refusal) actions (i + 1)).sink.bytes =
        (after {} actions (i + 1)).sink.bytes.take limit ∧
      (after (.ofLimit limit refusal) actions (i + 1)).state = (after {} actions (i + 1)).state ∧
      (after {} actions (i + 1)).state.printed = none ∧
      ∀ j > i, (after (.ofLimit limit refusal) actions j).status = .aborted ∧
        (after (.ofLimit limit refusal) actions j).sink = (after (.ofLimit limit refusal) actions (i + 1)).sink) := by
  obtain ⟨hbound, hascii⟩ := after_free actions i
  obtain ⟨_, hascii'⟩ := after_free actions (i + 1)
  rw [Sink.length_bytes hascii, Sink.length_bytes hascii']
  refine ⟨fun hfit => ?_, fun hfit hgt => ?_⟩
  · rw [after_ofLimit hfit]
    exact ⟨(play_limited (m := start {}) refusal rfl hfit).2, (play_free (m := start {}) rfl _).2, rfl, rfl, rfl⟩
  · obtain ⟨action, ha⟩ : ∃ action, actions[i]? = some action := by
      refine Option.ne_none_iff_exists'.1 fun hnone => ?_
      rw [after, List.take_add_one, hnone, Option.toList_none, List.append_nil] at hgt
      exact Nat.not_le.2 hgt hfit
    rw [after_succ ha] at hgt
    obtain rfl := eq_step_of_gt hfit hgt
    have hfree : after {} actions (i + 1) = (after {} actions i).step.machine := after_succ ha {}
    obtain ⟨hmachine, hresult, hprinted⟩ := step_limited_of_gt refusal hbound hfit hgt
    rw [← after_ofLimit hfit] at hmachine hresult
    have hcut : after (.ofLimit limit refusal) actions (i + 1) =
        (after (.ofLimit limit refusal) actions i).step.machine := after_succ ha _
    rw [hmachine, ← hfree] at hcut
    rw [← hfree] at hprinted
    refine ⟨ha, hresult, ?_, ?_, hprinted, fun j hj => ?_⟩
    · exact Sink.bytes_ofList_take hascii' (by rw [hcut])
    · rw [hcut]
    · have hstopped : (after (.ofLimit limit refusal) actions (i + 1)).status ≠ .running := by simp [hcut]
      obtain ⟨hstatus, hsink⟩ := after_of_not_running hstopped hj
      exact ⟨by rw [hstatus, hcut], hsink⟩

/-- A program that prints 255 and halts. -/
def printAndHalt : List Action := [.loadProgram [0x82, 0, 0xFF, 0x47, 0, 0x01], .step, .step, .step]

/-- With room for five bytes the number fits, and the notice of the halt is cut after its first letter. -/
theorem limited_session_printAndHalt :
    (after (.ofLimit 5 .full) printAndHalt 3).sink.text = "255\n" ∧
      (after (.ofLimit 5 .full) printAndHalt 3).step.result = .error (.output .full) ∧
      (after (.ofLimit 5 .full) printAndHalt 4).sink.bytes = "255\nP".toUTF8.data.toList := by
  have hfit : (after {} printAndHalt 3).sink.bytes.length ≤ 5 := by decide +kernel
  have hgt : 5 < (after {} printAndHalt 4).sink.bytes.length := by decide +kernel
  obtain ⟨hsame, hcut⟩ := limited_session 5 .full printAndHalt 3
  obtain ⟨_, _, _, _, htext⟩ := hsame hfit
  obtain ⟨_, hresult, hbytes, _⟩ := hcut hfit hgt
  refine ⟨?_, hresult, ?_⟩
  · rw [htext]
    decide +kernel
  · rw [hbytes]
    decide +kernel

end Machine
end ByteMachine
