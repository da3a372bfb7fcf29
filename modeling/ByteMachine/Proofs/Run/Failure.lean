import ByteMachine.Proofs.Run.Bound

/-!
# How a machine fails

- The byte at the program counter and the two after it decide whether a cycle carries out an instruction: it does not
  if the first one is no opcode, or if an operand that should name a register does not, the first such operand being
  refused (`Word.refused?_eq_some_iff`, `step_invalidInstruction_iff`, `step_trapped_iff`). These faults change nothing
  but the status.
- A sink can refuse only what a value to print or the halt has to say (`step_output`).
- A run ends with the first cycle that fails and answers its fault (`run_of_step_error`).

`step_fails_iff` puts this together.
-/

namespace ByteMachine

/-- The first operand is refused before the second one is looked at. -/
theorem Word.refused?_eq_some_iff {w : Word} {i : Instruction} {index : Byte} : w.refused? i = some index ↔
    (i ≠ .hlt ∧ i ≠ .ret) ∧ 8 ≤ w.a.toNat ∧ index = w.a ∨
      (i = .add ∨ i = .mul ∨ i = .cmp) ∧ w.a.toNat < 8 ∧ 8 ≤ w.b.toNat ∧ index = w.b := by
  have hfirst : 1 ≤ i.registerCount ↔ i ≠ .hlt ∧ i ≠ .ret := by cases i <;> decide
  have hsecond : 2 ≤ i.registerCount ↔ i = .add ∨ i = .mul ∨ i = .cmp := by cases i <;> decide
  have hboth : 2 ≤ i.registerCount → 1 ≤ i.registerCount := fun h => Nat.le_of_succ_le h
  rw [refused?, ← hfirst, ← hsecond]
  grind

namespace Machine

variable {m : Machine} {fault : Fault} {k : Nat}

/-! ## Faults of the instruction -/

/-- A fault that does not come from the sink is the one for which the cycle carries out no instruction. -/
theorem step_result_eq_fault_iff (h : ∀ refusal, fault ≠ .output refusal) :
    m.step.result = .error fault ↔ m.fault? = some fault := by
  rw [step_result_eq_error_iff]
  constructor
  · rintro (hf | ⟨_, _, refusal, _, _, rfl⟩)
    · exact hf
    · exact absurd rfl (h refusal)
  · exact .inl

theorem step_invalidInstruction_iff (h : m.status = .running) {op : Opcode} {pc : Byte} :
    m.step.result = .error (.invalidInstruction op pc) ↔
      (∀ i : Instruction, i.opcode ≠ m.state.fetch.op) ∧ op = m.state.fetch.op ∧ pc = m.state.pc := by
  rw [step_result_eq_fault_iff (by simp), fault?, if_pos h, ← Instruction.decode_eq_none_iff]
  cases hd : Instruction.decode m.state.fetch.op with
  | none => simp [eq_comm]
  | some i => simp

theorem step_trapped_iff (h : m.status = .running) {trap : Trap} : m.step.result = .error (.trapped trap) ↔
    ∃ i index, Instruction.opcode i = m.state.fetch.op ∧ m.state.fetch.refused? i = some index ∧
      trap = .invalidRegister index := by
  rw [step_result_eq_fault_iff (by simp), fault?, if_pos h]
  cases hd : Instruction.decode m.state.fetch.op with
  | none =>
    have hne := Instruction.decode_eq_none_iff.1 hd
    simp [hne]
  | some i =>
    have hop (j : Instruction) : j.opcode = m.state.fetch.op ↔ j = i := by
      rw [← Instruction.decode_eq_some_iff, hd, Option.some.injEq, eq_comm]
    simp [hop, eq_comm]

/-- Such a fault leaves all as it was, but for the status. -/
theorem step_machine_of_error (h : m.step.result = .error fault) (hf : ∀ refusal, fault ≠ .output refusal) :
    m.step.machine = { m with status := .aborted } := by
  obtain ⟨log, hstep⟩ := step_of_fault ((step_result_eq_fault_iff hf).1 h)
  rw [hstep]
  rfl

/-! ## Faults of the sink -/

/-- Only a value to print or the halt has anything to write, so nothing else can be refused. -/
theorem step_output (hprinted : m.state.printed = none) (hhalted : m.state.halted = false) {refusal : Refusal}
    (h : m.step.result = .error (.output refusal)) :
    m.state.fetch.op = Instruction.opcode .prn ∧ m.state.fetch.a.toNat < 8 ∨
      m.state.fetch.op = Instruction.opcode .hlt := by
  obtain hf | ⟨i, s, _, hs, hw, _⟩ := step_result_eq_error_iff.1 h
  · exact absurd hf (fault?_ne_output refusal)
  · have hop := Instruction.opcode_of_decode hs.decoded
    have hvalid := hs.effect.valid.1
    by_cases hprn : i = .prn
    · subst hprn
      exact .inl ⟨hop.symm, hvalid (by decide)⟩
    · by_cases hhlt : i = .hlt
      · subst hhlt
        exact .inr hop.symm
      · rw [hs.effect.output_eq_empty hprn hhlt hprinted hhalted, Sink.write_empty] at hw
        contradiction

/-! ## Runs that fail -/

/-- A cycle that fails is the last one. -/
theorem stops_of_step_error (h : (m.cycles k).step.result = .error fault) : m.Stops (k + 1) := by
  have hrunning : (m.cycles k).status = .running := by
    refine Decidable.byContradiction fun hne => ?_
    rw [step_of_not_running hne] at h
    contradiction
  refine stops_succ hrunning ?_
  obtain ⟨_, _, hstatus⟩ | ⟨hresult, _⟩ := step_result_of_running hrunning
  · rw [cycles_succ, hstatus]
    decide
  · rw [h] at hresult
    contradiction

/-- **A run answers the fault of the cycle that fails**, with the machine that this cycle leaves. -/
theorem run_of_step_error (h : (m.cycles k).step.result = .error fault) :
    m.run = some ⟨(m.cycles k).step.machine, .error fault, m.logAfter (k + 1)⟩ := by
  refine run_eq_some_iff.2 ⟨k + 1, stops_of_step_error h, ?_⟩
  rw [replyAfter, resultAfter, h, cycles_succ]

/-- **Exactly when a cycle fails, and what a failure leaves.** With `op`, `a` and `b` the bytes at the program counter:
no opcode at all is an invalid instruction; an operand that should name a register and does not is an invalid register,
the first one before the second one; nothing else is wrong with an instruction, and what is written can fail only for
a value to print or the halt. A fault of the instruction changes nothing but the status, and a run that comes to it
answers it. In a session nothing waits to be written and no machine that runs has halted, so there the clause on what is
written holds without more (`Session.op_of_refused`). -/
theorem step_fails_iff {op a b : Byte} (h : m.status = .running) (hop : m.state.memory.read m.state.pc = op)
    (ha : m.state.memory.read (m.state.pc + 1) = a) (hb : m.state.memory.read (m.state.pc + 2) = b) :
    (∀ op' pc, m.step.result = .error (.invalidInstruction op' pc) ↔
      (∀ i : Instruction, i.opcode ≠ op) ∧ op' = op ∧ pc = m.state.pc) ∧
    (∀ index, m.step.result = .error (.trapped (.invalidRegister index)) ↔
      (∃ i : Instruction, i.opcode = op ∧ i ≠ .hlt ∧ i ≠ .ret) ∧ 8 ≤ a.toNat ∧ index = a ∨
      (∃ i : Instruction, i.opcode = op ∧ (i = .add ∨ i = .mul ∨ i = .cmp)) ∧ a.toNat < 8 ∧ 8 ≤ b.toNat ∧
        index = b) ∧
    (∀ op', m.step.result ≠ .error (.trapped (.unsupportedOperation op'))) ∧
    (m.state.printed = none → m.state.halted = false → ∀ refusal, m.step.result = .error (.output refusal) →
      op = Instruction.opcode .prn ∧ a.toNat < 8 ∨ op = Instruction.opcode .hlt) ∧
    ∀ fault, m.step.result = .error fault → (∀ refusal, fault ≠ .output refusal) →
      m.step.machine = { m with status := .aborted } ∧
      ∀ (m₀ : Machine) (k : Nat), m₀.cycles k = m →
        ∃ log, m₀.run = some ⟨{ m with status := .aborted }, .error fault, log⟩ := by
  subst hop ha hb
  refine ⟨fun op' pc => step_invalidInstruction_iff h, fun index => ?_, fun op' hresult => ?_,
    fun hprinted hhalted refusal => step_output hprinted hhalted, fun fault hresult hf => ?_⟩
  · rw [step_trapped_iff h]
    constructor
    · rintro ⟨i, _, hi, hrefused, hindex⟩
      cases hindex
      obtain ⟨hfirst, hrest⟩ | ⟨hsecond, hrest⟩ := Word.refused?_eq_some_iff.1 hrefused
      · exact .inl ⟨⟨i, hi, hfirst⟩, hrest⟩
      · exact .inr ⟨⟨i, hi, hsecond⟩, hrest⟩
    · rintro (⟨⟨i, hi, hfirst⟩, hrest⟩ | ⟨⟨i, hi, hsecond⟩, hrest⟩)
      · exact ⟨i, index, hi, Word.refused?_eq_some_iff.2 (.inl ⟨hfirst, hrest⟩), rfl⟩
      · exact ⟨i, index, hi, Word.refused?_eq_some_iff.2 (.inr ⟨hsecond, hrest⟩), rfl⟩
  · obtain ⟨_, _, _, _, htrap⟩ := (step_trapped_iff h).1 hresult
    contradiction
  · have hmachine := step_machine_of_error hresult hf
    refine ⟨hmachine, ?_⟩
    rintro m₀ k rfl
    rw [← hmachine]
    exact ⟨_, run_of_step_error hresult⟩

/-- A sum of `R0` and a register that there is none of, after a value for `R0`. -/
def sumOfNone : Machine := ((start {}).loadProgram [0x82, 0, 5, 0xA0, 0, 9]).machine

/-- The run of the program answers the second operand, and `R0` keeps its value. -/
theorem step_fails_iff_sumOfNone :
    (sumOfNone.cycles 1).status = .running ∧ (sumOfNone.cycles 1).state.memory.read 3 = 0xA0 ∧
      (∃ log, sumOfNone.run = some ⟨{ sumOfNone.cycles 1 with status := .aborted },
        .error (.trapped (.invalidRegister 9)), log⟩) ∧
      (sumOfNone.cycles 1).state.get 0 = 5 := by
  have h : (sumOfNone.cycles 1).status = .running := by decide +kernel
  have hop : (sumOfNone.cycles 1).state.memory.read (sumOfNone.cycles 1).state.pc = 0xA0 := by decide +kernel
  have ha : (sumOfNone.cycles 1).state.memory.read ((sumOfNone.cycles 1).state.pc + 1) = 0 := by decide +kernel
  have hb : (sumOfNone.cycles 1).state.memory.read ((sumOfNone.cycles 1).state.pc + 2) = 9 := by decide +kernel
  obtain ⟨_, hregister, _, _, hfault⟩ := step_fails_iff h hop ha hb
  have hresult := (hregister 9).2 (.inr ⟨⟨.add, rfl, .inl rfl⟩, by decide, by decide, rfl⟩)
  exact ⟨h, by decide +kernel, (hfault _ hresult (by simp)).2 sumOfNone 1 rfl, by decide +kernel⟩

end Machine
end ByteMachine
