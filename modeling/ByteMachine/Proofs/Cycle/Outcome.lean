import ByteMachine.Machine.Step
import ByteMachine.Proofs.Execution.Effect

/-!
# How a cycle goes

- `Executes m i s` says that the next cycle of `m` carries out `i`, which makes `s` of the state; such a cycle ends with
  `commit`. `fault? m` is the fault for which it carries out none; it then stops the machine and changes nothing else
  (`step_of_fault`). A machine that runs does the one or the other (`step_cases`).
- Writing the printed value and then the notice comes to the same as writing both at once (`commit_eq`). So all that a
  cycle writes goes through one `Sink.write`, and the new state stands whether or not it gets through.
-/

namespace ByteMachine

/-! ## Writing -/

/-- Writing two texts one after the other is writing both at once, unless the first one is refused. -/
theorem Sink.write_append (s : Sink) (t u : String) :
    s.write (t ++ u) = if (s.write t).2 = none then (s.write t).1.write u else s.write t := by
  obtain ⟨text, _ | ⟨limit, refusal⟩⟩ := s
  · simp [write, String.append_assoc]
  · by_cases ht : t.length ≤ limit - text.length
    · have htake : t.toList.take (limit - text.length) = t.toList :=
        List.take_of_length_le (by rwa [String.length_toList])
      simp only [write, ht, ↓reduceIte, String.length_append]
      by_cases hu : u.length ≤ limit - (text.length + t.length)
      · rw [if_pos (by omega), if_pos hu, String.append_assoc]
      · rw [if_neg (by omega), if_neg hu, String.toList_append, List.take_append, htake, String.length_toList,
          String.ofList_append, String.ofList_toList, String.append_assoc, Nat.sub_sub]
    · simp only [write, ht, ↓reduceIte, String.length_append]
      rw [if_neg (by omega), String.toList_append, List.take_append_of_le_length (by rw [String.length_toList]; omega)]
      rfl

theorem Sink.write_empty (s : Sink) : s.write "" = (s, none) := by
  obtain ⟨text, _ | ⟨limit, refusal⟩⟩ := s <;> simp [write]

/-- All that a cycle writes which leaves this state. -/
def State.output (s : State) : String :=
  (match s.printed with
    | some value => value.decimal ++ "\n"
    | none => "") ++
  (if s.halted then haltNotice ++ "\n" else "")

/-- The state when its output has been written. -/
def State.settled (s : State) : State := { s with printed := none }

/-- Nothing is written unless a value was printed or the machine has halted. -/
theorem Effect.output_eq_empty {w : Word} {s s' : State} {i : Instruction} (h : Effect w s i s') (hi : i ≠ .prn)
    (hi' : i ≠ .hlt) (hp : s.printed = none) (hh : s.halted = false) : s'.output = "" := by
  simp [State.output, h.printed hi, h.halted, hp, hh, hi']

namespace Machine

/-- The machine and the result of a cycle, once the sink has taken what it takes. -/
def conclude (s : State) (status : Status) : Sink × Option Refusal → Machine × Except Fault Status
  | (sink, none) => (⟨s, status, sink⟩, .ok status)
  | (sink, some refusal) => (⟨s, .aborted, sink⟩, .error (.output refusal))

@[simp] theorem conclude_state (s : State) (status : Status) (written : Sink × Option Refusal) :
    (conclude s status written).1.state = s := by
  obtain ⟨sink, _ | refusal⟩ := written <;> rfl

@[simp] theorem conclude_sink (s : State) (status : Status) (written : Sink × Option Refusal) :
    (conclude s status written).1.sink = written.1 := by
  obtain ⟨sink, _ | refusal⟩ := written <;> rfl

@[simp] theorem conclude_status (s : State) (status : Status) (written : Sink × Option Refusal) :
    (conclude s status written).1.status = if written.2 = none then status else .aborted := by
  obtain ⟨sink, _ | refusal⟩ := written <;> rfl

theorem emit_eq (m : Machine) (line : String) (log : List Message) :
    ((m.emit line log).machine, (m.emit line log).result) =
      conclude m.state m.status (m.sink.write (line ++ "\n")) := by
  unfold emit
  split <;> simp [*, conclude, abort]

/-- Taking over a state writes its output in one piece. -/
theorem commit_eq (m : Machine) (s : State) (log : List Message) :
    ((m.commit s log).machine, (m.commit s log).result) =
      conclude s.settled (if s.halted then .halted else m.status) (m.sink.write s.output) := by
  cases hp : s.printed with
  | none =>
    cases hh : s.halted with
    | false => simp [commit, emitValue, State.output, hp, hh, Sink.write_empty, conclude, State.settled]
    | true => simp [commit, emitValue, State.output, hp, hh, emit_eq, conclude, State.settled]
  | some value =>
    rcases hw : m.sink.write (value.decimal ++ "\n") with ⟨sink, refused⟩
    cases refused with
    | none =>
      cases hh : s.halted with
      | false => simp [commit, emitValue, emit, State.output, hp, hh, hw, conclude, State.settled]
      | true =>
        have happ : m.sink.write (value.decimal ++ "\n" ++ (haltNotice ++ "\n")) = sink.write (haltNotice ++ "\n") := by
          rw [Sink.write_append, hw]
          rfl
        rcases hn : sink.write (haltNotice ++ "\n") with ⟨sink', _ | refusal⟩ <;>
          simp [commit, emitValue, emit, State.output, hp, hh, hw, happ, hn, conclude, State.settled, abort]
    | some refusal =>
      have happ (u : String) : m.sink.write (value.decimal ++ "\n" ++ u) = (sink, some refusal) := by
        rw [Sink.write_append, hw]
        rfl
      simp [commit, emitValue, emit, State.output, hp, hw, happ, conclude, State.settled, abort]

theorem emit_log (m : Machine) (line : String) (log : List Message) : (m.emit line log).log = log := by
  unfold emit
  split <;> rfl

/-- The halt is reported, also if the notice is refused, unless a value was printed before it and refused. -/
theorem commit_log {m : Machine} {s : State} {log : List Message}
    (h : s.halted = true → s.printed = none ∨ m.sink.bound = none) :
    (m.commit s log).log = log ++ if s.halted then [.halted s.pc] else [] := by
  cases hp : s.printed with
  | none => cases hh : s.halted <;> simp [commit, emitValue, emit_log, hp, hh]
  | some value =>
    cases hh : s.halted with
    | false =>
      simp only [commit, emitValue, hp, hh]
      split <;> simp [emit_log]
    | true =>
      have hfree : m.sink.bound = none := (h hh).resolve_left (by simp [hp])
      simp [commit, emitValue, emit, Sink.write_of_unbounded, hfree, hp, hh]

/-! ## The ways a cycle can go -/

/-- The next cycle carries out `i`, which makes `s` of the state. -/
structure Executes (m : Machine) (i : Instruction) (s : State) : Prop where
  running : m.status = .running
  decoded : Instruction.decode m.state.fetch.op = some i
  effect : Effect m.state.fetch m.state i s

/-- The instruction that the next cycle carries out: the byte at the program counter is its opcode, and the operands
that it takes as registers name registers. -/
def executed? (m : Machine) : Option Instruction :=
  if m.status = .running then (Instruction.decode m.state.fetch.op).filter fun i => m.state.fetch.Valid i else none

variable {m : Machine} {i : Instruction} {s : State}

theorem executed?_eq_some_iff : m.executed? = some i ↔ ∃ s, m.Executes i s := by
  constructor
  · intro h
    simp only [executed?, Option.ite_none_right_eq_some, Option.filter_eq_some_iff, decide_eq_true_eq] at h
    obtain ⟨hm, hd, hv⟩ := h
    obtain ⟨s, hs⟩ := exists_effect hv
    exact ⟨s, hm, hd, hs⟩
  · rintro ⟨s, hm, hd, hs⟩
    simp [executed?, hm, hd, hs.valid]

/-- A machine that runs carries out what it decodes, if the operands name registers. -/
theorem executed?_of_decode (hm : m.status = .running) (hd : Instruction.decode m.state.fetch.op = some i) :
    m.executed? = if m.state.fetch.Valid i then some i else none := by
  rw [executed?, if_pos hm, hd, Option.filter_some]
  simp only [decide_eq_true_eq]

/-- A cycle that carries out an instruction ends by taking over the new state. -/
theorem Executes.step_eq (h : m.Executes i s) : m.step = m.commit s [.executing m.state.trace i] :=
  step_of_execute h.running h.decoded ((execute_eq_ok_iff h.decoded).2 h.effect)

theorem Executes.step_machine (h : m.Executes i s) : (m.step.machine, m.step.result) =
    conclude s.settled (if s.halted then .halted else .running) (m.sink.write s.output) := by
  rw [h.step_eq, commit_eq, h.running]

theorem Executes.machine_eq (h : m.Executes i s) : m.step.machine =
    (conclude s.settled (if s.halted then .halted else .running) (m.sink.write s.output)).1 :=
  congrArg Prod.fst h.step_machine

theorem Executes.result_eq (h : m.Executes i s) : m.step.result =
    (conclude s.settled (if s.halted then .halted else .running) (m.sink.write s.output)).2 :=
  congrArg Prod.snd h.step_machine

/-- With a sink that refuses nothing the output is written and the cycle succeeds. -/
theorem Executes.step_of_unbounded (h : m.Executes i s) (hm : m.sink.bound = none) :
    m.step.machine = ⟨s.settled, if s.halted then .halted else .running, ⟨m.sink.text ++ s.output, none⟩⟩ ∧
      m.step.result = .ok (if s.halted then .halted else .running) := by
  have hstep := h.step_machine
  rw [Sink.write_of_unbounded hm, conclude, Prod.mk.injEq, hm] at hstep
  exact hstep

/-- The new state stands, also when writing its output fails. -/
theorem Executes.step_state (h : m.Executes i s) : m.step.machine.state = s.settled := by
  rw [h.machine_eq, conclude_state]

/-- The fault for which the next cycle carries out no instruction. -/
def fault? (m : Machine) : Option Fault :=
  if m.status = .running then
    match Instruction.decode m.state.fetch.op with
    | none => some (.invalidInstruction m.state.fetch.op m.state.pc)
    | some i => (m.state.fetch.refused? i).map fun index => .trapped (.invalidRegister index)
  else none

/-- A cycle with a fault stops the machine and changes nothing else. -/
theorem step_of_fault {fault : Fault} (h : m.fault? = some fault) : ∃ log, m.step = m.abort fault log := by
  simp only [fault?, Option.ite_none_right_eq_some] at h
  obtain ⟨hm, h⟩ := h
  cases hd : Instruction.decode m.state.fetch.op with
  | none =>
    rw [hd] at h
    exact ⟨_, Option.some.inj h ▸ step_of_decode_none hm hd⟩
  | some i =>
    rw [hd] at h
    obtain ⟨index, hindex, rfl⟩ := Option.map_eq_some_iff.1 h
    exact ⟨_, step_of_trap hm hd (execute_of_refused hindex)⟩

/-- A cycle with a fault carries out no instruction. -/
theorem executed?_of_fault {fault : Fault} (h : m.fault? = some fault) : m.executed? = none := by
  refine Option.eq_none_iff_forall_ne_some.2 fun i hi => ?_
  obtain ⟨s, hs⟩ := executed?_eq_some_iff.1 hi
  have hvalid := Word.refused?_eq_none_iff.2 hs.effect.valid
  simp [fault?, hs.running, hs.decoded, hvalid] at h

/-- A fault does not come from the sink. -/
theorem fault?_ne_output (refusal : Refusal) : m.fault? ≠ some (.output refusal) := by
  intro h
  simp only [fault?, Option.ite_none_right_eq_some] at h
  obtain ⟨_, h⟩ := h
  split at h <;> simp at h

/-- A cycle carries out an instruction, or has a fault, or does nothing. -/
theorem step_cases (m : Machine) :
    (∃ i s, m.Executes i s) ∨ (∃ fault, m.fault? = some fault) ∨ m.status ≠ .running := by
  by_cases hm : m.status = .running
  · cases hd : Instruction.decode m.state.fetch.op with
    | none => exact .inr (.inl ⟨_, by simp [fault?, hm, hd]; rfl⟩)
    | some i =>
      cases hr : m.state.fetch.refused? i with
      | none =>
        obtain ⟨s, hs⟩ := exists_effect (Word.refused?_eq_none_iff.1 hr)
        exact .inl ⟨i, s, hm, hd, hs⟩
      | some index => exact .inr (.inl ⟨_, by simp [fault?, hm, hd, hr]; rfl⟩)
  · exact .inr (.inr hm)

/-- A cycle that carries out no instruction leaves the state alone. -/
theorem step_state_of_executed?_eq_none (h : m.executed? = none) : m.step.machine.state = m.state := by
  obtain ⟨i, s, hs⟩ | ⟨fault, hf⟩ | hm := step_cases m
  · rw [executed?_eq_some_iff.2 ⟨s, hs⟩] at h
    contradiction
  · obtain ⟨log, hstep⟩ := step_of_fault hf
    rw [hstep]
    rfl
  · rw [step_of_not_running hm]

/-! ## What a cycle answers -/

/-- A cycle with a fault answers the fault. -/
theorem step_result_of_fault {fault : Fault} (h : m.fault? = some fault) : m.step.result = .error fault := by
  obtain ⟨log, hstep⟩ := step_of_fault h
  rw [hstep]
  rfl

/-- A cycle that carries out an instruction fails if the sink refuses some of the output. -/
theorem Executes.step_result_eq_error_iff (h : m.Executes i s) {fault : Fault} :
    m.step.result = .error fault ↔ ∃ refusal, (m.sink.write s.output).2 = some refusal ∧ fault = .output refusal := by
  rw [h.result_eq]
  rcases m.sink.write s.output with ⟨sink, _ | refusal⟩
  · simp [conclude]
  · simp only [conclude, Except.error.injEq, Option.some.injEq, exists_eq_left']
    exact eq_comm

/-- A cycle fails for its fault, or because the sink refuses some of its output. -/
theorem step_result_eq_error_iff {fault : Fault} : m.step.result = .error fault ↔
    m.fault? = some fault ∨
      ∃ i s refusal, m.Executes i s ∧ (m.sink.write s.output).2 = some refusal ∧ fault = .output refusal := by
  constructor
  · intro h
    obtain ⟨i, s, hs⟩ | ⟨fault', hf⟩ | hm := step_cases m
    · obtain ⟨refusal, hw, hfault⟩ := hs.step_result_eq_error_iff.1 h
      exact .inr ⟨i, s, refusal, hs, hw, hfault⟩
    · rw [step_result_of_fault hf] at h
      cases h
      exact .inl hf
    · rw [step_of_not_running hm] at h
      cases h
  · rintro (hf | ⟨i, s, refusal, hs, hw, hfault⟩)
    · exact step_result_of_fault hf
    · exact hs.step_result_eq_error_iff.2 ⟨refusal, hw, hfault⟩

/-- With a sink that refuses nothing a cycle carries out the instruction that it decodes iff it does not fail. -/
theorem executed?_eq_some_iff_result (hm : m.sink.bound = none) : m.executed? = some i ↔
    m.status = .running ∧ Instruction.decode m.state.fetch.op = some i ∧ ∃ status, m.step.result = .ok status := by
  constructor
  · intro h
    obtain ⟨s, hs⟩ := executed?_eq_some_iff.1 h
    exact ⟨hs.running, hs.decoded, _, (hs.step_of_unbounded hm).2⟩
  · rintro ⟨hrunning, hd, status, hresult⟩
    obtain ⟨j, s, hs⟩ | ⟨fault, hf⟩ | hne := step_cases m
    · obtain rfl := Option.some.inj (hs.decoded.symm.trans hd)
      exact executed?_eq_some_iff.2 ⟨s, hs⟩
    · rw [step_result_of_fault hf] at hresult
      contradiction
    · contradiction

/-- A cycle of a machine that runs either fails and aborts it, or answers the status that it leaves. -/
theorem step_result_of_running (h : m.status = .running) :
    (∃ fault, m.step.result = .error fault ∧ m.step.machine.status = .aborted) ∨
      m.step.result = .ok m.step.machine.status ∧ m.step.machine.status ≠ .aborted := by
  obtain ⟨i, s, hs⟩ | ⟨fault, hf⟩ | hm := step_cases m
  · rw [hs.machine_eq, hs.result_eq]
    rcases m.sink.write s.output with ⟨sink, _ | refusal⟩
    · refine .inr ⟨rfl, ?_⟩
      cases hh : s.halted <;> simp [conclude]
    · exact .inl ⟨_, rfl, rfl⟩
  · obtain ⟨log, hstep⟩ := step_of_fault hf
    rw [hstep]
    exact .inl ⟨fault, rfl, rfl⟩
  · contradiction

end Machine
end ByteMachine
