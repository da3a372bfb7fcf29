import ByteMachine.Proofs.Cycle.Outcome

/-!
# The course of a machine

- `cycles m n` is the machine `n` cycles on, and `history m n` lists the instructions that those cycles carry out.
- `writes? m` is the cell that the next cycle writes. It is the one below the stack, and only an instruction that
  pushes writes it; all other cells keep what they hold (`read_step`).
-/

namespace ByteMachine.Machine

/-! ## Cycle after cycle -/

/-- The machine some cycles on. -/
def cycles (m : Machine) : Nat → Machine
  | 0 => m
  | n + 1 => (m.cycles n).step.machine

/-- The instructions that the first `n` cycles carry out, in order. -/
def history (m : Machine) : Nat → List Instruction
  | 0 => []
  | n + 1 => m.history n ++ (m.cycles n).executed?.toList

@[simp] theorem cycles_zero (m : Machine) : m.cycles 0 = m := rfl

theorem cycles_succ (m : Machine) (n : Nat) : m.cycles (n + 1) = (m.cycles n).step.machine := rfl

theorem history_succ (m : Machine) (n : Nat) :
    m.history (n + 1) = m.history n ++ (m.cycles n).executed?.toList := rfl

/-! ## The cell that a cycle writes -/

/-- The cell that the next cycle writes, if it writes one. -/
def writes? (m : Machine) : Option Byte :=
  (m.executed?.filter Instruction.pushes).map fun _ => m.state.sp - 1

variable {m : Machine} {x : Byte}

theorem writes?_eq_some_iff :
    m.writes? = some x ↔ ∃ i, m.executed? = some i ∧ i.pushes ∧ x = m.state.sp - 1 := by
  simp only [writes?, Option.map_eq_some_iff, Option.filter_eq_some_iff, and_assoc]
  exact exists_congr fun i => and_congr_right fun _ => and_congr_right fun _ => eq_comm

/-- The cell that a cycle writes is the top of the stack afterwards, and no other cell changes. -/
theorem memory_step (h : m.writes? = some x) : m.step.machine.state.sp = x ∧
    m.step.machine.state.memory = m.state.memory.write x m.step.machine.state.top := by
  obtain ⟨i, hi, hpush, rfl⟩ := writes?_eq_some_iff.1 h
  obtain ⟨s, hs⟩ := executed?_eq_some_iff.1 hi
  have hassigns : i.assigns → m.state.fetch.a ≠ 7 := by
    cases i <;> simp_all [Instruction.pushes, Instruction.assigns]
  have hsp := hs.effect.sp hassigns
  have hmem := hs.effect.memory
  rw [if_pos hpush] at hsp hmem
  rw [hs.step_state]
  exact ⟨hsp, hmem⟩

/-- A cell that a cycle does not write keeps what it holds. -/
theorem read_step (h : m.writes? ≠ some x) :
    m.step.machine.state.memory.read x = m.state.memory.read x := by
  cases hi : m.executed? with
  | none => rw [step_state_of_executed?_eq_none hi]
  | some i =>
    obtain ⟨s, hs⟩ := executed?_eq_some_iff.1 hi
    have hmem := hs.effect.memory
    rw [hs.step_state]
    change s.memory.read x = m.state.memory.read x
    rw [hmem]
    split
    · rename_i hpush
      rw [Memory.read_write, if_neg]
      rintro rfl
      exact h (writes?_eq_some_iff.2 ⟨i, hi, hpush, rfl⟩)
    · rfl

end ByteMachine.Machine
