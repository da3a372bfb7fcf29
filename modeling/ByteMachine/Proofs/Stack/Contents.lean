import ByteMachine.Proofs.Session.Actions
import ByteMachine.Proofs.Stack.Matching

/-!
# What the stack leaves in memory

- `PushesAt m k x` says that the cycle after the first `k` pushes a byte at the depth of the cell `x`. As long as no
  instruction assigns the stack pointer by its operand, these are the cycles that write the cell
  (`writes?_cycles_iff`), so the cell holds what the last of them has pushed (`read_cycles`).
- A stack that does not grow into the program leaves it alone, and the cells from its start on as well
  (`not_pushesAt_of_depth_le`).

`stack_contents` puts this together.
-/

namespace ByteMachine.Machine

variable {m : Machine} {n k : Nat} {x byte : Byte}

/-- The cycle after the first `k` pushes a byte, and the cell for the depth after it is `x`. -/
def PushesAt (m : Machine) (k : Nat) (x : Byte) : Prop :=
  (∃ i, (m.cycles k).executed? = some i ∧ i.pushes) ∧ (x.toNat : Int) = (m.state.sp.toNat - m.depth (k + 1)) % 256

/-- Of the first `n` cycles, the one after the first `k` is the last that pushes at the depth of `x`. -/
structure LastPushAt (m : Machine) (n k : Nat) (x : Byte) : Prop where
  lt : k < n
  pushesAt : m.PushesAt k x
  last : ∀ j, k < j → j < n → ¬ m.PushesAt j x

/-! ## One cycle -/

/-- An instruction that pushes has a byte to push. -/
theorem exists_pushes? {i : Instruction} (hi : m.executed? = some i) (hpush : i.pushes) :
    ∃ byte, m.pushes? = some byte := by
  cases i with
  | call => exact ⟨_, by rw [pushes?, hi]⟩
  | push =>
    obtain ⟨s, hs⟩ := executed?_eq_some_iff.1 hi
    cases hs.effect with
    | push hr => exact ⟨_, by rw [pushes?, hi, Register.ofByte?_eq_some_iff.2 hr, Option.map_some]⟩
  | _ => contradiction

/-- The cell that a cycle writes holds what is pushed. -/
theorem read_step_of_writes (hw : m.writes? = some x) (hb : m.pushes? = some byte) :
    m.step.machine.state.memory.read x = byte := by
  rw [← (memory_step hw).1]
  exact (top_step hb).2

/-! ## Some cycles -/

/-- **The cells that are written are those that the depth says.** -/
theorem writes?_cycles_iff (hsp : ∀ j ≤ k, (m.cycles j).SparesSp) :
    (m.cycles k).writes? = some x ↔ m.PushesAt k x := by
  constructor
  · intro hw
    obtain ⟨i, hi, hpush, _⟩ := writes?_eq_some_iff.1 hw
    exact ⟨⟨i, hi, hpush⟩, writes?_cycles hsp hw⟩
  · rintro ⟨⟨i, hi, hpush⟩, hx⟩
    have hw := writes?_eq_some_iff.2 ⟨i, hi, hpush, rfl⟩
    have haddr := writes?_cycles hsp hw
    rw [hw, Option.some.injEq, ← UInt8.toNat_inj]
    omega

theorem lastPushAt_self (h : m.PushesAt n x) : m.LastPushAt (n + 1) n x := by
  refine ⟨Nat.lt_succ_self n, h, ?_⟩
  intro j hnj hj
  omega

/-- The last push stays the last one while nothing else is pushed at its depth. -/
theorem LastPushAt.succ (h : m.LastPushAt n k x) (hn : ¬ m.PushesAt n x) : m.LastPushAt (n + 1) k x := by
  refine ⟨Nat.lt_succ_of_lt h.lt, h.pushesAt, ?_⟩
  intro j hkj hj
  obtain hj | rfl := Nat.lt_succ_iff_lt_or_eq.1 hj
  · exact h.last j hkj hj
  · exact hn

/-- **A cell holds what was pushed last** at its depth, or what it held at the beginning. -/
theorem read_cycles (hsp : ∀ k < n, (m.cycles k).SparesSp) (x : Byte) :
    (∃ k, m.LastPushAt n k x ∧ (m.cycles k).pushes? = some ((m.cycles n).state.memory.read x)) ∨
      (∀ k < n, ¬ m.PushesAt k x) ∧ (m.cycles n).state.memory.read x = m.state.memory.read x := by
  induction n with
  | zero => exact .inr ⟨fun k hk => absurd hk (Nat.not_lt_zero k), rfl⟩
  | succ n ih =>
    have hwrites : (m.cycles n).writes? = some x ↔ m.PushesAt n x :=
      writes?_cycles_iff fun j hj => hsp j (Nat.lt_succ_of_le hj)
    by_cases hn : m.PushesAt n x
    · obtain ⟨i, hi, hpush⟩ := hn.1
      obtain ⟨byte, hb⟩ := exists_pushes? hi hpush
      refine .inl ⟨n, lastPushAt_self hn, ?_⟩
      rw [cycles_succ, read_step_of_writes (hwrites.2 hn) hb, hb]
    · rw [cycles_succ, read_step (mt hwrites.1 hn)]
      obtain ⟨k, hlast, hb⟩ | ⟨hnone, hread⟩ := ih fun k hk => hsp k (Nat.lt_succ_of_lt hk)
      · exact .inl ⟨k, hlast.succ hn, hb⟩
      · refine .inr ⟨?_, hread⟩
        intro k hk
        obtain hk | rfl := Nat.lt_succ_iff_lt_or_eq.1 hk
        · exact hnone k hk
        · exact hn

/-! ## A stack above a program -/

/-- A stack that does not grow into the first `size` cells writes neither them nor the cells from its start on. -/
theorem not_pushesAt_of_depth_le (size : Nat)
    (hd : ∀ j ≤ n, 0 ≤ m.depth j ∧ m.depth j ≤ m.state.sp.toNat - size) (hk : k < n)
    (hx : x.toNat < size ∨ m.state.sp.toNat ≤ x.toNat) : ¬ m.PushesAt k x := by
  rintro ⟨⟨i, hi, hpush⟩, haddr⟩
  have hgrows := m.depth_succ k
  rw [growth_of_writes (writes?_eq_some_iff.2 ⟨i, hi, hpush, rfl⟩)] at hgrows
  have hbefore := hd k (Nat.le_of_lt hk)
  have hafter := hd (k + 1) hk
  have hlt := m.state.sp.toNat_lt
  omega

/-- **The stack pointer and memory, as the pushes tell them.** As long as no instruction assigns the stack pointer by
its operand, it is where the depth says, and each cell holds what was pushed last at its depth, or else what it held at
the beginning. In particular a program of at most 244 bytes is never altered by a stack that does not grow into it, and
neither are the cells from `0xF4` on. -/
theorem stack_contents (hsp : ∀ k < n, (m.cycles k).SparesSp) :
    ((m.cycles n).state.sp.toNat : Int) = (m.state.sp.toNat - m.depth n) % 256 ∧
    (∀ x, (∃ k, m.LastPushAt n k x ∧ (m.cycles k).pushes? = some ((m.cycles n).state.memory.read x)) ∨
      (∀ k < n, ¬ m.PushesAt k x) ∧ (m.cycles n).state.memory.read x = m.state.memory.read x) ∧
    ∀ sink action program, action.program? = some program → m = ((start sink).perform action).1 →
      program.length ≤ 244 → (∀ k ≤ n, 0 ≤ m.depth k ∧ m.depth k ≤ 244 - program.length) →
      ∀ k ≤ n, ∀ x : Byte, x.toNat < program.length ∨ 0xF4 ≤ x.toNat →
        (m.cycles k).state.memory.read x = program[x.toNat]?.getD 0 := by
  refine ⟨sp_cycles hsp, read_cycles hsp, ?_⟩
  intro sink action program hprogram hm hlength hd k hk x hx
  rw [perform_of_program? hprogram (by omega)] at hm
  have hstart : m.state.sp.toNat = 244 := by
    rw [hm]
    rfl
  have hread : m.state.memory.read x = program[x.toNat]?.getD 0 := by
    rw [hm]
    exact (Memory.read_overlay _ _ _).trans (congrArg _ (Memory.read_blank x))
  have hdepth : ∀ j ≤ k, 0 ≤ m.depth j ∧ m.depth j ≤ m.state.sp.toNat - program.length := by
    intro j hj
    rw [hstart]
    exact hd j (Nat.le_trans hj hk)
  obtain ⟨j, hlast, _⟩ | ⟨_, hsame⟩ := read_cycles (fun j hj => hsp j (Nat.lt_of_lt_of_le hj hk)) x
  · exact absurd hlast.pushesAt (not_pushesAt_of_depth_le program.length hdepth hlast.lt (by rwa [hstart]))
  · rw [hsame, hread]

/-- A program that pushes 16 and calls the instruction there, which returns at once. -/
def callAbovePush : List Byte := [0x82, 0, 16, 0x45, 0, 0x50, 0, 0x01, 0, 0, 0, 0, 0, 0, 0, 0, 0x11]

/-- After the return the pushed byte is on top of the stack, and the program is what was loaded. -/
theorem stack_contents_callAbovePush :
    let m := ((start {}).perform (.loadProgram callAbovePush)).1
    (∀ k < 4, (m.cycles k).SparesSp) ∧ m.depth 3 = 2 ∧ m.depth 4 = 1 ∧ (m.cycles 4).state.sp = 0xF3 ∧
      (∀ k < 4, ¬ m.PushesAt k 0xF4) ∧ ∀ k ≤ 4, (m.cycles k).state.memory.read 16 = 0x11 := by
  intro m
  have hsp : ∀ k < 4, (m.cycles k).SparesSp := by decide +kernel
  have hd : ∀ k ≤ 4, 0 ≤ m.depth k ∧ m.depth k ≤ 244 - callAbovePush.length := by decide +kernel
  have hfour : m.depth 4 = 1 := by decide +kernel
  obtain ⟨haccount, _, hprogram⟩ := stack_contents hsp
  refine ⟨hsp, by decide +kernel, hfour, ?_, ?_, ?_⟩
  · rw [hfour] at haccount
    rw [← UInt8.toNat_inj]
    exact Int.ofNat_inj.1 haccount
  · intro k hk
    exact not_pushesAt_of_depth_le callAbovePush.length hd hk (.inr (by decide))
  · intro k hk
    exact hprogram {} (.loadProgram callAbovePush) callAbovePush rfl rfl (by decide) hd k hk 16 (.inl (by decide))

end ByteMachine.Machine
