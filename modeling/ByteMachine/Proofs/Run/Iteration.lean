import ByteMachine.Proofs.Run.Bound

/-!
# A run is its cycles

- A run may be cut after any number of its cycles: what is left of it answers the same, unless the cut comes right
  after the cycle that fails (`Stops.cycles`, `resultAfter_cycles`, `logAfter_add`, `replyAfter_cycles`).
- A run that ends answers the fault of its last cycle or the status that it leaves, which is never that the machine
  runs (`Stops.resultAfter_cases`).
- A machine that does not run answers its status at once and stays as it is (`run_of_not_running`).

`run_iterates_cycles` puts this together.
-/

namespace ByteMachine.Machine

variable {m : Machine} {n k : Nat}

/-! ## Cutting a run -/

theorem course_add (m : Machine) (k j : Nat) : m.course (k + j) = m.course k ++ (m.cycles k).course j := by
  induction j with
  | zero => simp [course]
  | succ j ih => rw [← Nat.add_assoc, course_concat, ih, course_concat, cycles_add, List.append_assoc]

/-- The cycles after the first `k` log what is left of the log. -/
theorem logAfter_add (m : Machine) (k j : Nat) : m.logAfter (k + j) = m.logAfter k ++ (m.cycles k).logAfter j := by
  rw [logAfter, course_add, List.flatMap_append]
  rfl

/-- The machine `k` cycles on stops `k` cycles earlier. -/
theorem Stops.cycles {j : Nat} (h : m.Stops (k + j)) : (m.cycles k).Stops j := by
  refine ⟨fun i hi => ?_, ?_⟩
  · rw [← cycles_add]
    exact h.1 (k + i) (Nat.add_lt_add_left hi k)
  · rw [← cycles_add]
    exact h.2

/-- Unless the last of some cycles fails, it answers the status that it leaves. -/
theorem resultAfter_eq_ok (hgoes : m.Goes k) (hk : ∀ fault, m.resultAfter k ≠ .error fault) :
    m.resultAfter k = .ok (m.cycles k).status := by
  cases k with
  | zero => rfl
  | succ k =>
    obtain ⟨fault, hresult, _⟩ | ⟨hresult, _⟩ := step_result_of_running (hgoes k (Nat.lt_succ_self k))
    · exact absurd hresult (hk fault)
    · exact hresult

/-- What is left after `k` cycles has the same result, unless it is nothing and the last cycle has failed. -/
theorem resultAfter_cycles {j : Nat} (hgoes : m.Goes k) (hk : ∀ fault, m.resultAfter k ≠ .error fault) :
    (m.cycles k).resultAfter j = m.resultAfter (k + j) := by
  cases j with
  | zero => exact (resultAfter_eq_ok hgoes hk).symm
  | succ j => rw [resultAfter, ← cycles_add, ← Nat.add_assoc, resultAfter]

/-- **A run may be cut** after a cycle that does not fail. -/
theorem replyAfter_cycles {j : Nat} (hgoes : m.Goes k) (hk : ∀ fault, m.resultAfter k ≠ .error fault) :
    m.replyAfter (k + j) =
      { (m.cycles k).replyAfter j with log := m.logAfter k ++ ((m.cycles k).replyAfter j).log } := by
  rw [replyAfter, cycles_add, ← resultAfter_cycles hgoes hk, logAfter_add]
  rfl

/-! ## The result of a run -/

/-- A run that ends has failed in its last cycle, or answers the status that it leaves. That it was aborted it answers
only if it had been before. -/
theorem Stops.resultAfter_cases (h : m.Stops n) :
    (∃ fault, m.resultAfter n = .error fault) ∨
      m.resultAfter n = .ok (m.cycles n).status ∧ ((m.cycles n).status = .aborted → m.status = .aborted) := by
  cases n with
  | zero => exact .inr ⟨rfl, id⟩
  | succ n =>
    obtain ⟨fault, hresult, _⟩ | ⟨hresult, hstatus⟩ := step_result_of_running (h.1 n (Nat.lt_succ_self n))
    · exact .inl ⟨fault, hresult⟩
    · exact .inr ⟨hresult, fun haborted => absurd haborted hstatus⟩

theorem run_of_stops (h : m.Stops n) : m.run = some (m.replyAfter n) := run_eq_some_iff.2 ⟨n, h, rfl⟩

theorem run_of_not_running (h : m.status ≠ .running) : m.run = some ⟨m, .ok m.status, []⟩ :=
  run_of_stops (stops_zero_iff.2 h)

/-- A run of a machine that runs halts it, or fails and aborts it. -/
theorem run_cases {r : Reply Fault Status} (hm : m.status = .running) (h : m.run = some r) :
    (r.result = .ok .halted ∧ r.machine.status = .halted) ∨
      ∃ fault, r.result = .error fault ∧ r.machine.status = .aborted := by
  obtain ⟨n, hn, rfl⟩ := run_eq_some_iff.1 h
  cases n with
  | zero => exact absurd hm (stops_zero_iff.1 hn)
  | succ n =>
    have hne : (m.cycles n).step.machine.status ≠ .running := hn.2
    obtain ⟨fault, hresult, hstatus⟩ | ⟨hresult, hstatus⟩ := step_result_of_running (hn.1 n (Nat.lt_succ_self n))
    · exact .inr ⟨fault, hresult, hstatus⟩
    · have hhalted : (m.cycles n).step.machine.status = .halted := by
        cases h : (m.cycles n).step.machine.status <;> simp_all
      exact .inl ⟨hresult.trans (congrArg _ hhalted), hhalted⟩

/-- A run ends iff some number of cycles leaves a machine that does not run. -/
theorem run_ne_none_iff : m.run ≠ none ↔ ∃ n, (m.cycles n).status ≠ .running := by
  rw [Ne, run_eq_none_iff, not_forall]

/-- **A run is its cycles.** It ends iff after some number of cycles the machine does not run. With `n` the least such
number it leaves the machine `n` cycles on and has logged what these cycles log; it answers the fault of the last one
if that has failed, and otherwise the status that it leaves. So it never answers that the machine runs, and that it was
aborted only if it had been before. To carry out some of the cycles first, the last one of them without a failure, and
then to run comes to the same. After a run has ended cycles and runs change nothing. -/
theorem run_iterates_cycles (m : Machine) :
    (m.run ≠ none ↔ ∃ n, (m.cycles n).status ≠ .running) ∧
    ∀ n, m.Stops n → ∃ r, m.run = some r ∧
      r.machine = m.cycles n ∧ r.log = m.logAfter n ∧
      (∀ fault, m.resultAfter n = .error fault → r.result = .error fault) ∧
      ((∀ fault, m.resultAfter n ≠ .error fault) → r.result = .ok r.machine.status) ∧
      r.result ≠ .ok .running ∧ (r.result = .ok .aborted → m.status = .aborted) ∧
      (∀ k ≤ n, (∀ fault, m.resultAfter k ≠ .error fault) → ∃ r', (m.cycles k).run = some r' ∧
        r'.machine = r.machine ∧ r'.result = r.result ∧ m.logAfter k ++ r'.log = r.log) ∧
      r.machine.step = ⟨r.machine, .ok r.machine.status, []⟩ ∧
      r.machine.run = some ⟨r.machine, .ok r.machine.status, []⟩ := by
  refine ⟨run_ne_none_iff, ?_⟩
  intro n hn
  refine ⟨m.replyAfter n, run_of_stops hn, rfl, rfl, ?_, resultAfter_eq_ok hn.1, ?_, ?_, ?_,
    step_of_not_running hn.2, run_of_not_running hn.2⟩
  · intro fault hfault
    exact hfault
  · intro hrunning
    obtain ⟨fault, hresult⟩ | ⟨hresult, _⟩ := hn.resultAfter_cases
    · exact absurd (hresult.symm.trans hrunning) (by simp)
    · exact hn.2 (Except.ok.inj (hresult.symm.trans hrunning))
  · intro haborted
    obtain ⟨fault, hresult⟩ | ⟨hresult, hbefore⟩ := hn.resultAfter_cases
    · exact absurd (hresult.symm.trans haborted) (by simp)
    · exact hbefore (Except.ok.inj (hresult.symm.trans haborted))
  · intro k hk hresult
    obtain ⟨j, rfl⟩ := Nat.exists_eq_add_of_le hk
    have hgoes : m.Goes k := fun i hi => hn.1 i (Nat.lt_of_lt_of_le hi hk)
    rw [replyAfter_cycles hgoes hresult]
    exact ⟨_, run_of_stops hn.cycles, rfl, rfl, rfl⟩

/-- A jump at 0 to 0. -/
def jumpToItself : Machine := ⟨{ State.initial with memory := Memory.blank.write 0 0x54 }, .running, {}⟩

/-- A program that prints 7 and halts, with room for the number and not for the notice. -/
def noRoomForNotice : Machine :=
  ((start { bound := some (2, .full) }).loadProgram [0x82, 0, 7, 0x47, 0, 0x01]).machine

/-- The jump runs forever. The program fails in its third cycle, with or without a break after the second one. -/
theorem run_iterates_cycles_noRoomForNotice :
    jumpToItself.run = none ∧
    noRoomForNotice.Stops 3 ∧ ∃ r, noRoomForNotice.run = some r ∧ r.machine.sink.text = "7\n" ∧
      r.result = .error (.output .full) ∧ r.machine.status = .aborted ∧ r.machine.step.result = .ok .aborted ∧
      ∃ r', (noRoomForNotice.cycles 2).run = some r' ∧ r'.machine = r.machine ∧ r'.result = r.result := by
  have hself : jumpToItself.step.machine = jumpToItself := by
    have hs : jumpToItself.Executes .jmp jumpToItself.state := ⟨rfl, by decide +kernel, Effect.jmp (r := 0) rfl⟩
    exact (hs.step_of_unbounded rfl).1
  have hforever (n : Nat) : jumpToItself.cycles n = jumpToItself := by
    induction n with
    | zero => rfl
    | succ n ih => rw [cycles_succ, ih, hself]
  have hstops : noRoomForNotice.Stops 3 := by
    have hgoes : ∀ k < 3, (noRoomForNotice.cycles k).status = .running := by decide +kernel
    exact ⟨hgoes, by decide +kernel⟩
  have hfails : noRoomForNotice.resultAfter 3 = .error (.output .full) := by decide +kernel
  have hcut : noRoomForNotice.resultAfter 2 = .ok .running := by decide +kernel
  obtain ⟨r, hrun, hmachine, _, hfault, _, _, _, hbreak, hstep, _⟩ :=
    (run_iterates_cycles noRoomForNotice).2 3 hstops
  obtain ⟨r', hrun', hmachine', hresult', _⟩ := hbreak 2 (by decide) (by simp [hcut])
  have haborted : r.machine.status = .aborted := by
    rw [hmachine]
    decide +kernel
  refine ⟨?_, hstops, r, hrun, ?_, hfault _ hfails, haborted, ?_, r', hrun', hmachine', hresult'⟩
  · by_contra hends
    obtain ⟨n, hn⟩ := (run_iterates_cycles jumpToItself).1.1 hends
    rw [hforever n] at hn
    exact hn rfl
  · rw [hmachine]
    decide +kernel
  · rw [hstep, haborted]

end ByteMachine.Machine
