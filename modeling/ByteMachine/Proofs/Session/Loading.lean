import ByteMachine.Proofs.Session.Actions
import Mathlib.Data.List.Induction

/-!
# Loading

- A load that succeeds puts its program into the cells from address 0 on and leaves all else as it was (`Placed`); one
  that fails leaves the whole machine as it was. A list fails if it is longer than memory, an image if no program can be
  read from it: a program that was read always fits (`Image.length_le_of_program_read`).
- After several loads a cell holds the byte of the last successful one that covers it, or what it held before
  (`read_play_of_loads`).

`load_all_or_nothing` puts this together.
-/

namespace ByteMachine

/-- The program that an action puts into memory. -/
def Action.placed? (action : Action) : Option (List Byte) := action.program?.filter (·.length ≤ 256)

/-- The last one of some programs that reaches beyond an address. -/
def lastOver? (x : Byte) (programs : List (List Byte)) : Option (List Byte) :=
  (programs.filter (x.toNat < ·.length)).getLast?

theorem lastOver?_concat (x : Byte) (programs : List (List Byte)) (program : List Byte) :
    lastOver? x (programs ++ [program]) = if x.toNat < program.length then some program else lastOver? x programs := by
  rw [lastOver?, lastOver?, List.filter_append, List.getLast?_append]
  by_cases h : x.toNat < program.length <;> simp [h]

theorem lt_length_of_lastOver? {x : Byte} {programs : List (List Byte)} {program : List Byte}
    (h : lastOver? x programs = some program) : x.toNat < program.length := by
  have hmem := List.mem_of_getLast? h
  simpa using (List.mem_filter.1 hmem).2

namespace Machine

/-- What is left of `m` by a load that puts a program into memory, after it has reported some lines. -/
structure Placed (m : Machine) (program : List Byte) (skips : List Message) (reply : Reply LoadFault Nat) : Prop where
  result : reply.result = .ok program.length
  covered : ∀ x : Byte, x.toNat < program.length → program[x.toNat]? = some (reply.machine.state.memory.read x)
  kept : ∀ x : Byte, program.length ≤ x.toNat → reply.machine.state.memory.read x = m.state.memory.read x
  rest : { reply.machine with state := { reply.machine.state with memory := m.state.memory } } = m
  log : reply.log = skips ++ [.loaded program.length]

variable (m : Machine) {action : Action} {actions : List Action} {program image : List Byte} {fault : LoadFault}

/-! ## One load -/

theorem placed_overlay (skips : List Message) : m.Placed program skips
    ⟨{ m with state := { m.state with memory := m.state.memory.overlay program } }, .ok program.length,
      skips ++ [.loaded program.length]⟩ where
  result := rfl
  covered x hx := by
    dsimp only
    rw [Memory.read_overlay, List.getElem?_eq_getElem hx, Option.getD_some]
  kept x hx := by
    dsimp only
    rw [Memory.read_overlay, List.getElem?_eq_none hx, Option.getD_none]
  rest := rfl
  log := rfl

theorem placed_loadProgram (h : program.length ≤ 256) : m.Placed program [] (m.loadProgram program) := by
  rw [m.loadProgram_of_length_le h]
  exact m.placed_overlay []

theorem placed_loadImage (h : (Image.read image).program = .ok program) :
    m.Placed program (Image.read image).log (m.loadImage image) := by
  rw [m.loadImage_of_ok h]
  exact m.placed_overlay _

/-! ## Several loads -/

theorem perform_of_placed? (h : action.placed? = some program) : m.perform action =
    ({ m with state := { m.state with memory := m.state.memory.overlay program } }, .loaded (.ok program.length)) := by
  obtain ⟨hprogram, hlength⟩ := Option.filter_eq_some_iff.1 h
  exact perform_of_program? hprogram (of_decide_eq_true hlength)

/-- A load that puts nothing into memory fails, and the machine stays as it was. -/
theorem perform_of_placed?_eq_none (h : action.placed? = none) (hload : action ≠ .step) :
    ∃ fault, m.perform action = (m, .loaded (.error fault)) := by
  cases action with
  | loadProgram program =>
    have hlength : 256 < program.length := by simpa [Action.placed?, Action.program?] using h
    exact ⟨_, by rw [perform, m.loadProgram_of_length_gt hlength]⟩
  | loadImage image =>
    cases hread : (Image.read image).program with
    | error fault => exact ⟨fault, by rw [perform, m.loadImage_of_error hread]⟩
    | ok program =>
      have hlength : 256 < program.length := by
        simpa [Action.placed?, Action.program?_loadImage_eq_some_iff.2 hread] using h
      exact absurd (Image.length_le_of_program_read hread) (Nat.not_le.2 hlength)
  | step => contradiction

/-- **A load succeeds iff it puts a program into memory**, and answers the length of the program. -/
theorem perform_answer_eq_ok_iff {n : Nat} (hload : action ≠ .step) :
    (m.perform action).2 = .loaded (.ok n) ↔ ∃ program, action.placed? = some program ∧ program.length = n := by
  cases h : action.placed? with
  | none =>
    obtain ⟨fault, hperform⟩ := m.perform_of_placed?_eq_none h hload
    simp [hperform]
  | some program => simp [m.perform_of_placed? h]

/-- **After some loads a cell holds the byte of the last program that covers it**, or what it held before. -/
theorem read_play_of_loads (hload : .step ∉ actions) (x : Byte) :
    (m.play actions).state.memory.read x =
      ((lastOver? x (actions.filterMap Action.placed?)).bind (·[x.toNat]?)).getD (m.state.memory.read x) := by
  induction actions using List.reverseRecOn with
  | nil => rfl
  | append_singleton actions action ih =>
    have hactions : .step ∉ actions := fun h => hload (List.mem_append_left _ h)
    have haction : action ≠ .step := fun h => hload (h ▸ List.mem_append_right _ (List.mem_singleton_self _))
    rw [play_append, play_cons, play_nil, List.filterMap_append]
    cases h : action.placed? with
    | none =>
      obtain ⟨fault, hperform⟩ := (m.play actions).perform_of_placed?_eq_none h haction
      rw [hperform, ih hactions]
      simp [h]
    | some program =>
      have hone : [action].filterMap Action.placed? = [program] := by simp [h]
      rw [perform_of_placed? _ h, hone, lastOver?_concat]
      dsimp only
      rw [Memory.read_overlay]
      by_cases hx : x.toNat < program.length
      · rw [if_pos hx, Option.bind_some, List.getElem?_eq_getElem hx, Option.getD_some, Option.getD_some]
      · rw [if_neg hx, List.getElem?_eq_none (Nat.le_of_not_lt hx), Option.getD_none, ih hactions]

/-- Loads change nothing but memory. -/
theorem play_of_loads (hload : .step ∉ actions) :
    { m.play actions with state := { (m.play actions).state with memory := m.state.memory } } = m := by
  induction actions using List.reverseRecOn with
  | nil => rfl
  | append_singleton actions action ih =>
    have hactions : .step ∉ actions := fun h => hload (List.mem_append_left _ h)
    have haction : action ≠ .step := fun h => hload (h ▸ List.mem_append_right _ (List.mem_singleton_self _))
    obtain ⟨memory, hmachine⟩ := perform_machine_of_ne_step (m := m.play actions) haction
    rw [play_append, play_cons, play_nil, hmachine]
    exact ih hactions

/-- **Loading is all or nothing**, on every machine. A list of bytes is loaded if it fits in memory, an image if a
program can be read from it; then the program stands in the first cells, the length of it is answered and reported after
the lines that were skipped, and nothing else changes. Otherwise the machine stays as it was, the fault is answered, and
only skipped lines are reported. After any loads a cell holds the byte of the last one that succeeded and covers the
cell, or what it held before. -/
theorem load_all_or_nothing (m : Machine) :
    (∀ program : List Byte,
      (program.length ≤ 256 → m.Placed program [] (m.loadProgram program)) ∧
      (256 < program.length → m.loadProgram program = ⟨m, .error (.tooLarge program.length), []⟩)) ∧
    (∀ image : List Byte,
      (∀ program, (Image.read image).program = .ok program →
        m.Placed program (Image.read image).log (m.loadImage image)) ∧
      (∀ fault, (Image.read image).program = .error fault →
        m.loadImage image = ⟨m, .error fault, (Image.read image).log⟩) ∧
      ∀ message ∈ (Image.read image).log, ∃ number line, message = .skipped number line) ∧
    (∀ size, (Message.loaded size).text = "loaded " ++ Nat.repr size ++ " bytes") ∧
    ∀ actions, .step ∉ actions →
      { m.play actions with state := { (m.play actions).state with memory := m.state.memory } } = m ∧
      (∀ action ∈ actions, ∀ m' : Machine, ∀ n, (m'.perform action).2 = .loaded (.ok n) ↔
        ∃ program, action.placed? = some program ∧ program.length = n) ∧
      ∀ x : Byte,
        (∀ program, lastOver? x (actions.filterMap Action.placed?) = some program →
          program[x.toNat]? = some ((m.play actions).state.memory.read x)) ∧
        (lastOver? x (actions.filterMap Action.placed?) = none →
          (m.play actions).state.memory.read x = m.state.memory.read x) := by
  refine ⟨?_, ?_, fun _ => rfl, ?_⟩
  · intro program
    exact ⟨m.placed_loadProgram, m.loadProgram_of_length_gt⟩
  · intro image
    exact ⟨fun _ => m.placed_loadImage, fun _ => m.loadImage_of_error, fun _ => Image.exists_skipped_of_mem_log⟩
  · intro actions hload
    refine ⟨m.play_of_loads hload, ?_, ?_⟩
    · intro action haction m' n
      exact m'.perform_answer_eq_ok_iff fun h => hload (h ▸ haction)
    · intro x
      rw [m.read_play_of_loads hload x]
      constructor
      · intro program hprogram
        have hx := lt_length_of_lastOver? hprogram
        rw [hprogram, Option.bind_some, List.getElem?_eq_getElem hx, Option.getD_some]
      · intro hnone
        rw [hnone, Option.bind_none, Option.getD_none]

/-- A list of four bytes, an image with one literal after a line without any, and a list that is too long. -/
def overlappingLoads : List Action :=
  [.loadProgram [1, 2, 3, 4], .loadImage [0x23, 0x31, 0x0A, 0x31, 0x30, 0x31], .loadProgram (List.replicate 257 9)]

/-- On a machine that was aborted the first cell has the literal, and the next one the second byte of the list. -/
theorem load_all_or_nothing_overlappingLoads :
    let m : Machine := { start { bound := some (0, .full) } with status := .aborted }
    .step ∉ overlappingLoads ∧ (m.play overlappingLoads).state.memory.read 0 = 5 ∧
      (m.play overlappingLoads).state.memory.read 1 = 2 ∧ (m.play overlappingLoads).state.memory.read 4 = 0 ∧
      (m.play overlappingLoads).status = .aborted ∧
      m.loadProgram (List.replicate 257 9) = ⟨m, .error (.tooLarge 257), []⟩ := by
  intro m
  have hload : .step ∉ overlappingLoads := by decide
  obtain ⟨hlist, _, _, hloads⟩ := load_all_or_nothing m
  obtain ⟨hrest, _, hcells⟩ := hloads overlappingLoads hload
  have hfirst : lastOver? 0 (overlappingLoads.filterMap Action.placed?) = some [5] := by decide +kernel
  have hsecond : lastOver? 1 (overlappingLoads.filterMap Action.placed?) = some [1, 2, 3, 4] := by decide +kernel
  have hfifth : lastOver? 4 (overlappingLoads.filterMap Action.placed?) = none := by decide +kernel
  have hstatus := congrArg Machine.status hrest
  dsimp only at hstatus
  have hlong := (hlist (List.replicate 257 9)).2
  rw [List.length_replicate] at hlong
  refine ⟨hload, ?_, ?_, ?_, hstatus, hlong (by decide)⟩
  · exact (Option.some.inj ((hcells 0).1 _ hfirst)).symm
  · exact (Option.some.inj ((hcells 1).1 _ hsecond)).symm
  · exact ((hcells 4).2 hfifth).trans (Memory.read_blank 4)

end Machine
end ByteMachine
