import ByteMachine.Proofs.Stack.Depth

/-!
# Pops match pushes

A byte on the stack stays in its cell while the depth above it is between 0 and 255 (`top_stays`): the cell comes up
for writing again only at a depth that is a multiple of 256. So the instruction that pops at depth 0 reads the byte
that was pushed, whatever was called, pushed and popped in between (`pop_matches_push`).
-/

namespace ByteMachine.Machine

/-- The byte that the next cycle pushes, if it pushes one: the address after a call, or the value of a register, which
for the stack pointer is its value below the old top. -/
def pushes? (m : Machine) : Option Byte :=
  match m.executed? with
  | some .call => some (m.state.pc + 2)
  | some .push => (Register.ofByte? m.state.fetch.a).map fun r =>
    if r = Register.sp then m.state.sp - 1 else m.state.get r
  | _ => none

variable {m : Machine} {n : Nat} {x byte : Byte}

/-- A byte that a cycle pushes is on top of the stack afterwards, one cell below the old top. -/
theorem top_step (h : m.pushes? = some byte) :
    m.step.machine.state.sp = m.state.sp - 1 ∧ m.step.machine.state.top = byte := by
  unfold pushes? at h
  split at h
  · rename_i hi
    obtain ⟨s, hs⟩ := executed?_eq_some_iff.1 hi
    refine ⟨(memory_step (writes?_eq_some_iff.2 ⟨_, hi, rfl, rfl⟩)).1, ?_⟩
    rw [hs.step_state, ← Option.some.inj h, ← State.next_of_call hs.decoded]
    cases hs.effect
    exact State.top_setTop _ _
  · rename_i hi
    obtain ⟨s, hs⟩ := executed?_eq_some_iff.1 hi
    refine ⟨(memory_step (writes?_eq_some_iff.2 ⟨_, hi, rfl, rfl⟩)).1, ?_⟩
    rw [hs.step_state]
    cases hs.effect with
    | push hr =>
      rw [Register.ofByte?_eq_some_iff.2 hr] at h
      exact (State.top_setTop _ _).trans ((State.get_lower _ _).trans (Option.some.inj h))
  · contradiction

/-- A cycle that writes a cell makes the stack grow. -/
theorem growth_of_writes (h : m.writes? = some x) : m.growth = 1 := by
  obtain ⟨i, hi, hpush, _⟩ := writes?_eq_some_iff.1 h
  simp [growth, hi, hpush]

/-- **The top of the stack stays** while the depth above it is between 0 and 255. -/
theorem top_stays (hsp : ∀ k < n, (m.cycles k).SparesSp) (hd : ∀ k ≤ n, 0 ≤ m.depth k ∧ m.depth k ≤ 255) :
    (m.cycles n).state.memory.read m.state.sp = m.state.top := by
  induction n with
  | zero => rfl
  | succ n ih =>
    have hn := ih (fun k hk => hsp k (by omega)) (fun k hk => hd k (by omega))
    rw [cycles_succ, read_step, hn]
    intro hw
    have haddr := writes?_cycles (fun k hk => hsp k (by omega)) hw
    have hgrow := depth_succ m n
    rw [growth_of_writes hw] at hgrow
    have hlow := hd n (by omega)
    have hhigh := hd (n + 1) (by omega)
    have hlt := m.state.sp.toNat_lt
    omega

/-- An instruction that pops reads the top of the stack and moves the stack pointer up by one. -/
theorem pop_step {j : Instruction} (hj : m.executed? = some j) (hpop : j.pops) (hs : m.SparesSp) :
    m.step.machine.state.sp = m.state.sp + 1 ∧
      (j = .ret → m.step.machine.state.pc = m.state.top) ∧
      (j = .pop → ∀ q : Register, m.state.fetch.a.toNat = q.val → m.step.machine.state.get q = m.state.top) := by
  obtain ⟨s, hx⟩ := executed?_eq_some_iff.1 hj
  have hsp := hx.effect.sp (hs j hj)
  rw [hx.step_state]
  refine ⟨?_, ?_, ?_⟩
  · change s.sp = m.state.sp + 1
    rw [hsp]
    cases j <;> simp_all [Instruction.pops, Instruction.pushes]
  · rintro rfl
    cases hx.effect
    rfl
  · rintro rfl q hq
    cases hx.effect with
    | pop hr =>
      obtain rfl : _ = q := Fin.ext (hr.symm.trans hq)
      have hne := Effect.ne_sp hr (hs _ hj rfl)
      change State.get (State.set _ _ _) _ = _
      rw [State.get_set, if_neg hne.symm, State.get_set, if_pos rfl]

/-- **A pop reads what was pushed.** From a push on, let the depth stay between 0 and 255 and no instruction assign the
stack pointer by its operand. Then an instruction that pops at depth 0 reads the byte that was pushed and leaves the
stack pointer where it was before the push. -/
theorem pop_matches_push {j : Instruction} (hpush : m.pushes? = some byte)
    (hsp : ∀ k ≤ n, (m.step.machine.cycles k).SparesSp)
    (hd : ∀ k ≤ n, 0 ≤ m.step.machine.depth k ∧ m.step.machine.depth k ≤ 255) (hn : m.step.machine.depth n = 0)
    (hj : (m.step.machine.cycles n).executed? = some j) (hpop : j.pops) :
    m.step.machine.state.memory.read (m.state.sp - 1) = byte ∧
      (m.step.machine.cycles n).state.top = byte ∧
      (m.step.machine.cycles (n + 1)).state.sp = m.state.sp ∧
      (j = .ret → (m.step.machine.cycles (n + 1)).state.pc = byte) ∧
      (j = .pop → ∀ q : Register, (m.step.machine.cycles n).state.fetch.a.toNat = q.val →
        (m.step.machine.cycles (n + 1)).state.get q = byte) := by
  obtain ⟨hspush, htop⟩ := top_step hpush
  have hcell : m.step.machine.state.memory.read (m.state.sp - 1) = byte := by
    rw [← hspush]
    exact htop
  have hsp' : (m.step.machine.cycles n).state.sp = m.state.sp - 1 := by
    rw [← hspush, ← UInt8.toNat_inj]
    have hacc := sp_cycles fun k hk => hsp k (Nat.le_of_lt hk)
    have hlt := m.step.machine.state.sp.toNat_lt
    omega
  have hread : (m.step.machine.cycles n).state.top = byte := by
    have hstays := top_stays (fun k hk => hsp k (Nat.le_of_lt hk)) hd
    rw [hspush] at hstays
    rw [State.top, hsp', hstays, htop]
  obtain ⟨hup, hret, hreg⟩ := pop_step hj hpop (hsp n (Nat.le_refl n))
  rw [hread] at hret hreg
  refine ⟨hcell, hread, ?_, hret, hreg⟩
  rw [cycles_succ, hup, hsp', UInt8.sub_add_cancel]

/-- A call at 0 of a subroutine at 4 that pushes a register, calls the instruction at 11, which returns at once, pops
what it has pushed, and returns. -/
def nestedCalls : Machine :=
  ⟨{ State.initial with
      registers := ⟨#v[4, 11, 0, 0, 0, 0, 0, 0xF4]⟩
      memory := [(0, 0x50), (4, 0x45), (6, 0x50), (7, 1), (8, 0x46), (9, 2), (10, 0x11), (11, 0x11)].foldl
        (fun memory cell => memory.write cell.1 cell.2) Memory.blank }, .running, {}⟩

/-- The last return of `nestedCalls` goes back to the address after the first call. -/
theorem pop_matches_push_nestedCalls :
    nestedCalls.pushes? = some 2 ∧ (∀ k ≤ 4, (nestedCalls.step.machine.cycles k).SparesSp) ∧
      (∀ k ≤ 4, 0 ≤ nestedCalls.step.machine.depth k ∧ nestedCalls.step.machine.depth k ≤ 255) ∧
      nestedCalls.step.machine.depth 2 = 2 ∧ nestedCalls.step.machine.depth 4 = 0 ∧
      (nestedCalls.step.machine.cycles 4).executed? = some .ret ∧
      (nestedCalls.step.machine.cycles (4 + 1)).state.pc = 2 := by
  have hpush : nestedCalls.pushes? = some 2 := by decide +kernel
  have hsp : ∀ k ≤ 4, (nestedCalls.step.machine.cycles k).SparesSp := by decide +kernel
  have hd : ∀ k ≤ 4, 0 ≤ nestedCalls.step.machine.depth k ∧ nestedCalls.step.machine.depth k ≤ 255 := by
    decide +kernel
  have hzero : nestedCalls.step.machine.depth 4 = 0 := by decide +kernel
  have hret : (nestedCalls.step.machine.cycles 4).executed? = some .ret := by decide +kernel
  refine ⟨hpush, hsp, hd, by decide +kernel, hzero, hret, ?_⟩
  obtain ⟨_, _, _, hpc, _⟩ := pop_matches_push hpush hsp hd hzero hret (by decide)
  exact hpc rfl

end ByteMachine.Machine
