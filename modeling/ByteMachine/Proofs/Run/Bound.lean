import ByteMachine.Proofs.Run.Ending
import Mathlib.Data.Fintype.BigOperators
import Mathlib.Data.Fintype.Option
import Mathlib.Data.Fintype.Pigeonhole
import Mathlib.Data.Fintype.Prod

/-!
# How long a run can be

A cycle looks at the state, the status and the room that the sink has left, and at nothing else: machines that are
`Alike` in these go the same way. A run comes by at most `cycleBound` of them that are not alike, so one that ends has
no more cycles (`Stops.le_cycleBound`). Hence `run` answers for exactly the machines that stop (`run_eq_some_iff`), and
`none` means that the machine runs forever (`run_eq_none_iff`).
-/

namespace ByteMachine

/-! ## Room -/

namespace Sink

/-- How many characters the sink takes in all, if that is bounded. -/
def capacity (s : Sink) : Nat := s.bound.elim 0 Prod.fst

/-- How many more characters the sink takes, if that is bounded. -/
def room (s : Sink) : Nat := s.capacity - s.text.length

variable {s s' : Sink}

theorem room_le_capacity (s : Sink) : s.room ≤ s.capacity := Nat.sub_le _ _

/-- Whether a text is refused, and the room that it leaves, depend on the room that there is. -/
theorem write_congr (hbound : s.bound = s'.bound) (hroom : s.room = s'.room) (t : String) :
    (s.write t).2 = (s'.write t).2 ∧ (s.write t).1.room = (s'.write t).1.room := by
  obtain ⟨text, bound⟩ := s
  obtain ⟨text', bound'⟩ := s'
  obtain rfl : bound = bound' := hbound
  obtain _ | ⟨limit, refusal⟩ := bound
  · simp [write, room, capacity]
  · have hroom : limit - text.length = limit - text'.length := hroom
    simp only [write, hroom]
    split
    · exact ⟨rfl, by simp [room, capacity]; omega⟩
    · exact ⟨rfl, by simp [room, capacity]; omega⟩

end Sink

/-! ## States can be counted -/

/-- The parts of a state as values that can be counted. -/
abbrev State.Code : Type :=
  (Fin 8 → Fin 256) × Option Ordering × Fin 256 × (Fin 256 → Fin 256) × Bool × Option (Fin 256)

def Flags.outcome? : Flags → Option Ordering
  | clear => none
  | compared outcome => some outcome

theorem Flags.outcome?_injective : ∀ f g : Flags, f.outcome? = g.outcome? → f = g := by
  rintro (_ | _) (_ | _) h <;> simp_all [outcome?]

namespace State

def code (s : State) : Code :=
  (fun r => (s.get r).toFin, s.flags.outcome?, s.pc.toFin, fun a => (s.memory.read (.ofFin a)).toFin, s.halted,
    s.printed.map UInt8.toFin)

/-- The parts tell states apart. -/
theorem code_injective {s s' : State} (h : s.code = s'.code) : s = s' := by
  obtain ⟨registers, flags, pc, memory, halted, printed⟩ := s
  obtain ⟨registers', flags', pc', memory', halted', printed'⟩ := s'
  simp only [code, Prod.mk.injEq, funext_iff, UInt8.toFin_inj] at h
  obtain ⟨hregisters, hflags, hpc, hmemory, hhalted, hprinted⟩ := h
  obtain rfl := Registers.ext_get hregisters
  obtain rfl := Flags.outcome?_injective _ _ hflags
  obtain rfl := Memory.ext_read fun a => by simpa using hmemory a.toFin
  obtain rfl := Option.map_injective (fun a b => UInt8.toFin_inj.1) hprinted
  rw [hpc, hhalted]

theorem card_code : Fintype.card Code = count := by
  have hordering : Fintype.card Ordering = 3 := rfl
  simp only [Fintype.card_prod, Fintype.card_fun, Fintype.card_fin, Fintype.card_option, Fintype.card_bool, hordering,
    count, Nat.mul_assoc]
  rfl

end State

namespace Machine

theorem cycleBound_eq (m : Machine) : m.cycleBound = State.count * (m.sink.capacity + 1) := by
  rw [cycleBound, Sink.capacity]
  split <;> simp [*]

/-! ## Machines that go the same way -/

/-- Two machines that differ in the text that has been written at most, and have as much room for more. -/
structure Alike (m m' : Machine) : Prop where
  state : m.state = m'.state
  status : m.status = m'.status
  bound : m.sink.bound = m'.sink.bound
  room : m.sink.room = m'.sink.room

variable {m m' : Machine} {n : Nat} {r : Reply Fault Status}

theorem Alike.symm (h : m.Alike m') : m'.Alike m := ⟨h.state.symm, h.status.symm, h.bound.symm, h.room.symm⟩

/-- A cycle keeps machines alike. -/
theorem Alike.step (h : m.Alike m') : m.step.machine.Alike m'.step.machine := by
  obtain ⟨state, status, sink⟩ := m
  obtain ⟨state', status', sink'⟩ := m'
  obtain ⟨hstate, hstatus, hbound, hroom⟩ := h
  obtain rfl : state = state' := hstate
  obtain rfl : status = status' := hstatus
  obtain ⟨i, s, hs⟩ | ⟨fault, hf⟩ | hm := step_cases ⟨state, status, sink⟩
  · have hs' : Executes ⟨state, status, sink'⟩ i s := ⟨hs.running, hs.decoded, hs.effect⟩
    obtain ⟨hrefused, hroom'⟩ := Sink.write_congr hbound hroom s.output
    rw [hs.machine_eq, hs'.machine_eq]
    exact ⟨by simp, by simp [hrefused], by simpa using hbound, by simpa using hroom'⟩
  · obtain ⟨log, hstep⟩ := step_of_fault hf
    obtain ⟨log', hstep'⟩ := step_of_fault (m := ⟨state, status, sink'⟩) hf
    rw [hstep, hstep']
    exact ⟨rfl, rfl, hbound, hroom⟩
  · rw [step_of_not_running hm, step_of_not_running (m := ⟨state, status, sink'⟩) hm]
    exact ⟨rfl, rfl, hbound, hroom⟩

theorem Alike.cycles (h : m.Alike m') (n : Nat) : (m.cycles n).Alike (m'.cycles n) := by
  induction n with
  | zero => exact h
  | succ n ih => exact ih.step

/-- A machine that comes back to where it was does not stop. -/
theorem Stops.not_alike (h : m.Stops n) {j k : Nat} (hjk : j < k) (hk : k ≤ n) :
    ¬ (m.cycles j).Alike (m.cycles k) := by
  intro halike
  have hstatus := (halike.cycles (n - k)).status
  rw [← cycles_add, ← cycles_add, Nat.add_sub_cancel' hk] at hstatus
  exact h.2 (hstatus.symm.trans (h.1 (j + (n - k)) (by omega)))

/-! ## The bound -/

theorem step_bound (m : Machine) : m.step.machine.sink.bound = m.sink.bound := by
  obtain ⟨i, s, hs⟩ | ⟨fault, hf⟩ | hm := step_cases m
  · rw [hs.machine_eq, conclude_sink, Sink.write_bound]
  · obtain ⟨log, hstep⟩ := step_of_fault hf
    rw [hstep]
    rfl
  · rw [step_of_not_running hm]

theorem cycles_bound (m : Machine) (n : Nat) : (m.cycles n).sink.bound = m.sink.bound := by
  induction n with
  | zero => rfl
  | succ n ih => rw [cycles_succ, step_bound, ih]

/-- Where the machine is after some cycles, in values that can be counted: its state and the room that is left. -/
def placeAfter (m : Machine) (n : Nat) : State.Code × Fin (m.sink.capacity + 1) :=
  ((m.cycles n).state.code, ⟨(m.cycles n).sink.room, by
    have hle := (m.cycles n).sink.room_le_capacity
    rw [Sink.capacity, cycles_bound] at hle
    exact Nat.lt_succ_of_le hle⟩)

/-- **A machine that stops does so soon**: it is never twice in the same state with the same room left. -/
theorem Stops.le_cycleBound (h : m.Stops n) : n ≤ m.cycleBound := by
  refine Nat.le_of_not_lt fun hlt => ?_
  obtain ⟨j, k, hne, hplace⟩ := Fintype.exists_ne_map_eq_of_card_lt (fun k : Fin n => m.placeAfter k) (by
    rwa [Fintype.card_prod, State.card_code, Fintype.card_fin, Fintype.card_fin, ← cycleBound_eq])
  obtain ⟨hcode, hroom⟩ := Prod.mk.inj hplace
  have halike : (m.cycles j).Alike (m.cycles k) :=
    { state := State.code_injective hcode
      status := (h.1 j j.isLt).trans (h.1 k k.isLt).symm
      bound := (m.cycles_bound j).trans (m.cycles_bound k).symm
      room := congrArg Fin.val hroom }
  obtain hjk | hkj := Nat.lt_or_gt_of_ne (Fin.val_ne_of_ne hne)
  · exact h.not_alike hjk k.isLt.le halike
  · exact h.not_alike hkj j.isLt.le halike.symm

/-- **A run answers as its cycles do**, however many they are. -/
theorem run_eq_some_iff : m.run = some r ↔ ∃ n, m.Stops n ∧ r = m.replyAfter n := by
  rw [run, runFor_eq_some_iff]
  exact exists_congr fun n => and_iff_right_of_imp fun h => h.1.le_cycleBound

/-- A run has no answer only if the machine never stops. -/
theorem run_eq_none_iff : m.run = none ↔ ∀ n, (m.cycles n).status = .running := by
  rw [Option.eq_none_iff_forall_ne_some]
  constructor
  · intro h n
    refine Decidable.byContradiction fun hn => ?_
    obtain ⟨k, _, hk⟩ := exists_stops hn
    exact h _ (run_eq_some_iff.2 ⟨k, hk, rfl⟩)
  · intro h r hr
    obtain ⟨n, hn, _⟩ := run_eq_some_iff.1 hr
    exact hn.2 (h n)

end Machine
end ByteMachine
