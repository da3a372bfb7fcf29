import ByteMachine.Proofs.Cycle.Course

/-!
# The depth of the stack

`depth m n` is the number of bytes that `n` cycles push less the number that they pop, so it can be negative. As long
as no instruction assigns the stack pointer by its operand, the stack pointer keeps account of the depth
(`sp_cycles`), and the cell that a cycle writes is the one at the depth after it (`writes?_cycles`).
-/

namespace ByteMachine.Machine

/-- The bytes pushed less the bytes popped in the first `n` cycles. -/
def depth (m : Machine) (n : Nat) : Int :=
  (m.history n).countP Instruction.pushes - (m.history n).countP Instruction.pops

/-- The next cycle does not assign the stack pointer as the first operand of an instruction. -/
def SparesSp (m : Machine) : Prop := ∀ i ∈ m.executed?, i.assigns → m.state.fetch.a ≠ 7

instance (m : Machine) : Decidable m.SparesSp := by
  unfold SparesSp
  infer_instance

/-- By how much the next cycle makes the stack grow. -/
def growth (m : Machine) : Int :=
  match m.executed? with
  | some i => if i.pushes then 1 else if i.pops then -1 else 0
  | none => 0

variable {m : Machine} {n : Nat} {x : Byte}

@[simp] theorem depth_zero (m : Machine) : m.depth 0 = 0 := rfl

theorem depth_succ (m : Machine) (n : Nat) : m.depth (n + 1) = m.depth n + (m.cycles n).growth := by
  rw [depth, depth, history_succ, growth, List.countP_append, List.countP_append]
  rcases (m.cycles n).executed? with _ | i
  · simp
  · cases i <;> simp [Instruction.pushes, Instruction.pops] <;> omega

/-- The stack pointer moves against the growth of the stack. -/
theorem sp_step (h : m.SparesSp) :
    (m.step.machine.state.sp.toNat : Int) = (m.state.sp.toNat - m.growth) % 256 := by
  have hlt := m.state.sp.toNat_lt
  rw [growth]
  cases hi : m.executed? with
  | none =>
    rw [step_state_of_executed?_eq_none hi]
    dsimp only
    omega
  | some i =>
    obtain ⟨s, hs⟩ := executed?_eq_some_iff.1 hi
    have hsp : m.step.machine.state.sp = s.sp := by
      rw [hs.step_state]
      rfl
    rw [hsp, hs.effect.sp (h i hi)]
    dsimp only
    split
    · rw [UInt8.toNat_sub]
      simp only [UInt8.reduceToNat]
      omega
    · split
      · rw [UInt8.toNat_add]
        simp only [UInt8.reduceToNat]
        omega
      · omega

/-- **The stack pointer keeps account of the depth.** -/
theorem sp_cycles (h : ∀ k < n, (m.cycles k).SparesSp) :
    ((m.cycles n).state.sp.toNat : Int) = (m.state.sp.toNat - m.depth n) % 256 := by
  induction n with
  | zero =>
    have hlt := m.state.sp.toNat_lt
    rw [cycles_zero, depth_zero]
    omega
  | succ n ih =>
    have hn := ih fun k hk => h k (by omega)
    have hstep := sp_step (h n (by omega))
    rw [cycles_succ, hstep, hn, depth_succ]
    omega

/-- The cell that a cycle writes is the one at the depth after it. -/
theorem writes?_cycles (h : ∀ k ≤ n, (m.cycles k).SparesSp) (hx : (m.cycles n).writes? = some x) :
    (x.toNat : Int) = (m.state.sp.toNat - m.depth (n + 1)) % 256 := by
  rw [← (memory_step hx).1, ← cycles_succ, sp_cycles fun k hk => h k (by omega)]

end ByteMachine.Machine
