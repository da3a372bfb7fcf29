import ByteMachine.Proofs.Session.Commands

/-!
# Jumps obey the last comparison

- Only a comparison that is carried out sets the flags (`flags_step`), so at every moment of a session they tell how
  the last one came out, whatever was loaded, executed or failed since (`flags_of_moment`). Before the first comparison
  no flag is set.
- A conditional jump looks at one flag (`pc_step_of_jump`): whether the values that were compared last were equal
  (`isEqual_iff`). They are those that the registers held then, not those that they hold now.

`jumps_obey_last_comparison` puts this together.
-/

namespace ByteMachine

namespace Machine

/-- The values that the next cycle compares, if it carries out a comparison: those of the two registers that it names
at this moment. -/
def compared? (m : Machine) : Option (Byte × Byte) :=
  if m.executed? = some .cmp then
    match Register.ofByte? m.state.fetch.a, Register.ofByte? m.state.fetch.b with
    | some x, some y => some (m.state.get x, m.state.get y)
    | _, _ => none
  else none

/-- The values that were compared last. -/
def lastCompared? (begun : List Machine) : Option (Byte × Byte) := (begun.filterMap compared?).getLast?

/-- Something has been compared, and the values that were compared last were equal. -/
def EqualCompared (begun : List Machine) : Prop := ∃ value, lastCompared? begun = some (value, value)

/-- The flags after a comparison of these values, if there has been one. -/
def flagsOf (values : Option (Byte × Byte)) : Flags :=
  values.elim .clear fun values => .ofComparison values.1 values.2

variable {m : Machine} {i : Instruction} {begun : List Machine}

theorem lastCompared?_concat (begun : List Machine) (m : Machine) :
    lastCompared? (begun ++ [m]) = m.compared?.or (lastCompared? begun) := by
  rw [lastCompared?, lastCompared?, List.filterMap_append, List.getLast?_append]
  cases h : m.compared? <;> simp [h]

/-- The flag for equal values is set iff equal values were compared. -/
theorem isEqual_iff : (flagsOf (lastCompared? begun)).isEqual = true ↔ EqualCompared begun := by
  rw [EqualCompared]
  rcases lastCompared? begun with _ | ⟨x, y⟩
  · simp [flagsOf, Flags.isEqual]
  · simp [flagsOf, Flags.isEqual_ofComparison, eq_comm]

/-! ## One cycle -/

/-- **Only a comparison sets the flags**, and it sets them to its outcome. -/
theorem flags_step (m : Machine) : m.step.machine.state.flags =
    m.compared?.elim m.state.flags fun values => .ofComparison values.1 values.2 := by
  cases hi : m.executed? with
  | none =>
    have hnone : m.compared? = none := if_neg (by simp [hi])
    rw [step_state_of_executed?_eq_none hi, hnone, Option.elim_none]
  | some i =>
    obtain ⟨s, hs⟩ := executed?_eq_some_iff.1 hi
    have hflags : m.step.machine.state.flags = s.flags := by
      rw [hs.step_state]
      rfl
    rw [hflags]
    by_cases hcmp : i = .cmp
    · subst hcmp
      cases hs.effect with
      | cmp hx hy =>
        rw [compared?, if_pos hi, Register.ofByte?_eq_some_iff.2 hx, Register.ofByte?_eq_some_iff.2 hy]
        rfl
    · have hnone : m.compared? = none := if_neg (by simp [hi, hcmp])
      rw [hs.effect.flags hcmp, hnone, Option.elim_none]

/-- **A conditional jump looks at the flag for equal values.** It is taken if the flag is as the jump asks, and
otherwise the machine goes on two bytes later. -/
theorem pc_step_of_jump {r : Register} (h : m.executed? = some i) (hi : i = .jeq ∨ i = .jne)
    (hr : m.state.fetch.a.toNat = r.val) :
    m.step.machine.state.pc = if m.state.flags.isEqual = decide (i = .jeq) then m.state.get r else m.state.pc + 2 := by
  obtain ⟨s, hs⟩ := executed?_eq_some_iff.1 h
  have hregister {r' : Register} (hr' : m.state.fetch.a.toNat = r'.val) : r' = r := Fin.ext (hr'.symm.trans hr)
  have hnext : m.state.next m.state.fetch.op = m.state.pc + 2 := by
    rw [State.next_of_decode hs.decoded]
    obtain rfl | rfl := hi <;> rfl
  rw [hs.step_state, ← hnext]
  obtain rfl | rfl := hi
  · cases hs.effect with
    | jeq hr' =>
      obtain rfl := hregister hr'
      cases hequal : m.state.flags.isEqual <;> simp [State.settled]
  · cases hs.effect with
    | jne hr' =>
      obtain rfl := hregister hr'
      cases hequal : m.state.flags.isEqual <;> simp [State.settled]

end Machine

namespace Session

open Machine

variable {sink : Sink} {s : Session} {commands : List Command} {earlier : List Machine} {m : Machine}

/-- **The flags tell how the last comparison came out**, at every moment of a session. -/
theorem flags_of_moment (h : (start sink).conduct commands = some s) (hm : s.Moment earlier m) :
    m.state.flags = flagsOf (lastCompared? earlier) := by
  refine moment_induction (P := fun earlier m => m.state.flags = flagsOf (lastCompared? earlier)) rfl
    (fun _ _ _ hflags => hflags) ?_ h hm
  intro earlier m _ hflags
  rw [flags_step, lastCompared?_concat, hflags]
  cases m.compared? <;> rfl

/-- **Jumps obey the last comparison.** At every moment of a session no flag is set if nothing has been compared; after
that exactly one is, the one that tells how the values compared last are related. A jump if equal goes to its register
iff these were equal, a jump if not equal iff they were not or nothing has been compared; otherwise the machine goes on
two bytes later. -/
theorem jumps_obey_last_comparison (h : (start sink).conduct commands = some s) (hm : s.Moment earlier m) :
    (lastCompared? earlier = none → m.state.flags.byte = 0) ∧
    (∀ x y, lastCompared? earlier = some (x, y) →
      m.state.flags.byte = (if x < y then 4 else if y < x then 2 else 1) ∧
      m.state.flags.isLess = decide (x < y) ∧ m.state.flags.isGreater = decide (y < x) ∧
      m.state.flags.isEqual = decide (x = y)) ∧
    ∀ r : Register, m.state.fetch.a.toNat = r.val →
      (m.executed? = some .jeq →
        (EqualCompared earlier → m.step.machine.state.pc = m.state.get r) ∧
        (¬ EqualCompared earlier → m.step.machine.state.pc = m.state.pc + 2)) ∧
      (m.executed? = some .jne →
        (¬ EqualCompared earlier → m.step.machine.state.pc = m.state.get r) ∧
        (EqualCompared earlier → m.step.machine.state.pc = m.state.pc + 2)) := by
  have hflags := flags_of_moment h hm
  have hequal : m.state.flags.isEqual = true ↔ EqualCompared earlier := by rw [hflags, isEqual_iff]
  refine ⟨?_, ?_, ?_⟩
  · intro hnone
    rw [hflags, hnone]
    rfl
  · intro x y hlast
    rw [hflags, hlast]
    exact ⟨Flags.byte_ofComparison x y, Flags.isLess_ofComparison x y, Flags.isGreater_ofComparison x y,
      Flags.isEqual_ofComparison x y⟩
  · intro r hr
    constructor
    · intro hi
      have hpc := pc_step_of_jump hi (.inl rfl) hr
      exact ⟨fun heq => hpc.trans (if_pos (hequal.2 heq)), fun hne => hpc.trans (if_neg (mt hequal.1 hne))⟩
    · intro hi
      have hpc := pc_step_of_jump hi (.inr rfl) hr
      refine ⟨fun hne => hpc.trans (if_pos (Bool.eq_false_iff.2 (mt hequal.1 hne))), fun heq => hpc.trans (if_neg ?_)⟩
      rw [hequal.2 heq]
      decide

/-- A session that compares `R0` and `R1` and then puts 9 into `R0`. What comes next is a jump if equal to the address
in `R1`. -/
def changeAfterComparison : List Command :=
  [.act (.loadProgram [0xA7, 0, 1, 0x82, 0, 9, 0x55, 1]), .act .step, .act .step]

/-- By now the registers differ, but the jump is taken. -/
theorem jumps_obey_last_comparison_afterChange : ∃ s, (start {}).conduct changeAfterComparison = some s ∧
    s.machine.executed? = some .jeq ∧ s.machine.state.get 0 = 9 ∧ s.machine.state.get 1 = 0 ∧
      s.machine.state.flags.byte = 1 ∧ s.machine.step.machine.state.pc = 0 := by
  have hlast : ((start {}).conduct changeAfterComparison).map (fun s => lastCompared? s.begun) =
      some (some (0, 0)) := by decide +kernel
  obtain ⟨s, hs, hfacts⟩ := Option.map_eq_some_iff.1 (by decide +kernel :
    ((start {}).conduct changeAfterComparison).map (fun s =>
      (s.machine.executed?, s.machine.state.fetch.a, s.machine.state.get 0, s.machine.state.get 1)) =
        some (some .jeq, 1, 9, 0))
  rw [hs, Option.map_some, Option.some.injEq] at hlast
  simp only [Prod.mk.injEq] at hfacts
  obtain ⟨hjump, ha, hzero, hone⟩ := hfacts
  obtain ⟨_, hflags, hjumps⟩ := jumps_obey_last_comparison hs (.inr ⟨rfl, rfl⟩)
  have hbyte := (hflags 0 0 hlast).1
  have htaken := ((hjumps 1 (by rw [ha]; rfl)).1 hjump).1 ⟨0, hlast⟩
  exact ⟨s, hs, hjump, hzero, hone, by simpa using hbyte, htaken.trans hone⟩

end Session
end ByteMachine
