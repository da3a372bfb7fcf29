import ByteMachine.Machine.Run
import ByteMachine.Proofs.Cycle.Course

/-!
# How a run ends

- `Goes m n` says that the machine runs before each of `n` cycles, and `Stops m n` that it does and no longer runs after
  them. It stops after one number of cycles at most (`Stops.unique`), and a run of that many answers `replyAfter m n`:
  the machine `n` cycles on, the result of the last cycle, and all that the cycles logged.
- With enough fuel a run ends in exactly this way (`runFor_eq_some_iff`).
-/

namespace ByteMachine.Machine

/-- The machine runs before each of `n` cycles. -/
def Goes (m : Machine) (n : Nat) : Prop := ∀ k < n, (m.cycles k).status = .running

/-- The machine runs before each of `n` cycles and no longer after them. -/
def Stops (m : Machine) (n : Nat) : Prop := m.Goes n ∧ (m.cycles n).status ≠ .running

/-- The machines in which the first `n` cycles begin. -/
def course (m : Machine) (n : Nat) : List Machine := (List.range n).map m.cycles

/-- The result of the last of `n` cycles; without a cycle, the status. -/
def resultAfter (m : Machine) : Nat → Except Fault Status
  | 0 => .ok m.status
  | n + 1 => (m.cycles n).step.result

/-- What `n` cycles log. -/
def logAfter (m : Machine) (n : Nat) : List Message := (m.course n).flatMap fun m => m.step.log

/-- The reply of a run that takes `n` cycles. -/
def replyAfter (m : Machine) (n : Nat) : Reply Fault Status := ⟨m.cycles n, m.resultAfter n, m.logAfter n⟩

variable {m : Machine} {n k fuel : Nat} {r : Reply Fault Status}

/-! ## Cycle after cycle -/

/-- The first cycle may be taken off. -/
theorem cycles_step (m : Machine) (n : Nat) : m.step.machine.cycles n = m.cycles (n + 1) := by
  induction n with
  | zero => rfl
  | succ n ih => rw [cycles_succ, ih, cycles_succ m (n + 1)]

theorem cycles_add (m : Machine) (n k : Nat) : m.cycles (n + k) = (m.cycles n).cycles k := by
  induction k with
  | zero => rfl
  | succ k ih => rw [← Nat.add_assoc, cycles_succ, ih, cycles_succ]

theorem course_succ (m : Machine) (n : Nat) : m.course (n + 1) = m :: m.step.machine.course n := by
  rw [course, course, List.range_succ_eq_map, List.map_cons, List.map_map, funext m.cycles_step]
  rfl

theorem course_concat (m : Machine) (n : Nat) : m.course (n + 1) = m.course n ++ [m.cycles n] := by
  rw [course, course, List.range_succ, List.map_append, List.map_singleton]

/-- What holds after some cycles held before them or came about in one of them. -/
theorem cycles_iff {P Q : Machine → Prop} (hstep : ∀ k, P (m.cycles k).step.machine ↔ P (m.cycles k) ∨ Q (m.cycles k))
    (n : Nat) : P (m.cycles n) ↔ P m ∨ ∃ m' ∈ m.course n, Q m' := by
  induction n with
  | zero => simp [course]
  | succ n ih =>
    rw [cycles_succ, hstep, ih, course_concat]
    simp [or_and_right, exists_or, or_assoc]

/-- A machine that does not run stays as it is. -/
theorem cycles_of_not_running (h : m.status ≠ .running) (n : Nat) : m.cycles n = m := by
  induction n with
  | zero => rfl
  | succ n ih => rw [cycles_succ, ih, step_of_not_running h]

/-- A machine that runs has run all the time. -/
theorem running_of_le (h : (m.cycles n).status = .running) (hk : k ≤ n) : (m.cycles k).status = .running := by
  obtain ⟨j, rfl⟩ := Nat.exists_eq_add_of_le hk
  refine Decidable.byContradiction fun hne => hne ?_
  rwa [cycles_add, cycles_of_not_running hne] at h

theorem goes_zero (m : Machine) : m.Goes 0 := fun k hk => absurd hk (Nat.not_lt_zero k)

/-- A machine goes on by one cycle more than the machine after its next cycle. -/
theorem goes_succ_iff : m.Goes (n + 1) ↔ m.status = .running ∧ m.step.machine.Goes n := by
  simp only [Goes, cycles_step]
  constructor
  · intro h
    exact ⟨h 0 (Nat.succ_pos n), fun k hk => h (k + 1) (Nat.succ_lt_succ hk)⟩
  · rintro ⟨hm, h⟩ (_ | k) hk
    · exact hm
    · exact h k (Nat.lt_of_succ_lt_succ hk)

/-! ## Stopping -/

theorem Stops.unique (h : m.Stops n) (h' : m.Stops k) : n = k := by
  obtain hlt | rfl | hlt := Nat.lt_trichotomy n k
  · exact absurd (h'.1 n hlt) h.2
  · rfl
  · exact absurd (h.1 k hlt) h'.2

theorem stops_zero_iff : m.Stops 0 ↔ m.status ≠ .running := by
  simp [Stops, goes_zero]

theorem stops_succ_iff : m.Stops (n + 1) ↔ m.status = .running ∧ m.step.machine.Stops n := by
  rw [Stops, Stops, goes_succ_iff, cycles_step, and_assoc]

/-- The cycle after which a machine no longer runs is the last one. -/
theorem stops_succ (h : (m.cycles n).status = .running) (h' : (m.cycles (n + 1)).status ≠ .running) :
    m.Stops (n + 1) := ⟨fun _ hk => running_of_le h (Nat.le_of_lt_succ hk), h'⟩

/-- A machine that does not run after some cycles has stopped. -/
theorem exists_stops (h : (m.cycles n).status ≠ .running) : ∃ k ≤ n, m.Stops k := by
  induction n with
  | zero => exact ⟨0, Nat.le_refl 0, stops_zero_iff.2 h⟩
  | succ n ih =>
    by_cases hn : (m.cycles n).status = .running
    · exact ⟨n + 1, Nat.le_refl _, stops_succ hn h⟩
    · obtain ⟨k, hk, hstop⟩ := ih hn
      exact ⟨k, Nat.le_succ_of_le hk, hstop⟩

/-! ## Replies -/

theorem logAfter_succ (m : Machine) (n : Nat) : m.logAfter (n + 1) = m.step.log ++ m.step.machine.logAfter n := by
  rw [logAfter, course_succ, List.flatMap_cons]
  rfl

/-- A cycle that has not failed may be taken off. -/
theorem resultAfter_step (h : m.step.result = .ok m.step.machine.status) (n : Nat) :
    m.resultAfter (n + 1) = m.step.machine.resultAfter n := by
  cases n with
  | zero => exact h
  | succ n => rw [resultAfter, resultAfter, cycles_step]

/-- After a cycle that has not failed a run goes on like that of the machine after it. -/
theorem replyAfter_succ (h : m.step.result = .ok m.step.machine.status) (n : Nat) :
    m.replyAfter (n + 1) =
      { m.step.machine.replyAfter n with log := m.step.log ++ (m.step.machine.replyAfter n).log } := by
  rw [replyAfter, resultAfter_step h, logAfter_succ, ← cycles_step]
  rfl

theorem runFor_of_not_running (h : m.status ≠ .running) (fuel : Nat) : m.runFor #[] fuel = some (m.replyAfter 0) := by
  cases fuel <;> exact if_neg h

/-- A run ends with a cycle that fails. -/
theorem runFor_of_error (h : m.status = .running) {fault : Fault} (hresult : m.step.result = .error fault)
    (fuel : Nat) : m.runFor #[] (fuel + 1) = some (m.replyAfter 1) := by
  have hreply : m.replyAfter 1 = ⟨m.step.machine, .error fault, m.step.log⟩ := by
    rw [replyAfter, resultAfter, logAfter_succ, cycles_zero, hresult]
    simp [logAfter, course, cycles_succ]
  rw [runFor, if_pos h, hreply]
  rcases hstep : m.step with ⟨m', _ | fault', messages⟩ <;> simp_all

/-- A run goes on after a cycle that does not fail. -/
theorem runFor_of_ok (h : m.status = .running) {status : Status} (hresult : m.step.result = .ok status) (fuel : Nat) :
    m.runFor #[] (fuel + 1) =
      (m.step.machine.runFor #[] fuel).map fun r => { r with log := m.step.log ++ r.log } := by
  rw [runFor, if_pos h]
  rcases hstep : m.step with ⟨m', fault' | status', messages⟩
  · simp_all
  · dsimp only
    rw [runFor_log]
    simp

/-- **A run ends as its cycles do**, if there is fuel for them. -/
theorem runFor_eq_some_iff : m.runFor #[] fuel = some r ↔ ∃ n ≤ fuel, m.Stops n ∧ r = m.replyAfter n := by
  induction fuel generalizing m r with
  | zero =>
    by_cases h : m.status = .running
    · simp [runFor, h, stops_zero_iff]
    · simp [runFor_of_not_running h, stops_zero_iff, h, eq_comm]
  | succ fuel ih =>
    by_cases h : m.status = .running
    · obtain ⟨fault, hresult, hstatus⟩ | ⟨hresult, -⟩ := step_result_of_running h
      · have hstop : m.Stops 1 := stops_succ_iff.2 ⟨h, stops_zero_iff.2 (by simp [hstatus])⟩
        rw [runFor_of_error h hresult, Option.some.injEq]
        constructor
        · rintro rfl
          exact ⟨1, Nat.succ_pos fuel, hstop, rfl⟩
        · rintro ⟨n, _, hn, rfl⟩
          rw [hn.unique hstop]
      · rw [runFor_of_ok h hresult, Option.map_eq_some_iff]
        constructor
        · rintro ⟨r', hr', rfl⟩
          obtain ⟨n, hn, hstop, rfl⟩ := ih.1 hr'
          exact ⟨n + 1, Nat.succ_le_succ hn, stops_succ_iff.2 ⟨h, hstop⟩, (replyAfter_succ hresult n).symm⟩
        · rintro ⟨n, hn, hstop, rfl⟩
          cases n with
          | zero => exact absurd h (stops_zero_iff.1 hstop)
          | succ n =>
            have hstop' := (stops_succ_iff.1 hstop).2
            exact ⟨_, ih.2 ⟨n, Nat.le_of_succ_le_succ hn, hstop', rfl⟩, (replyAfter_succ hresult n).symm⟩
    · rw [runFor_of_not_running h, Option.some.injEq]
      constructor
      · rintro rfl
        exact ⟨0, Nat.zero_le _, stops_zero_iff.2 h, rfl⟩
      · rintro ⟨n, _, hn, rfl⟩
        rw [hn.unique (stops_zero_iff.2 h)]

end ByteMachine.Machine
