import ByteMachine.Proofs.Output.Transcript
import ByteMachine.Proofs.Session.Lifecycle

/-!
# The output is the history of what was printed

With a sink that refuses nothing, a cycle writes the value that it prints and the notice if it halts, and nothing else
(`sink_step`). So at every moment of a session the text is the transcript of the values printed so far, with the notice
at its end exactly if the machine has halted (`recorded_of_moment`), and the values can be read back from it.

`text_is_history` puts this together.
-/

namespace ByteMachine

namespace Machine

/-- The value that the next cycle prints, if it carries out the instruction to print: that of the register it names. -/
def prints? (m : Machine) : Option Byte :=
  if m.executed? = some .prn then (Register.ofByte? m.state.fetch.a).map m.state.get else none

variable {m : Machine} {i : Instruction} {s : State} {value : Byte}

theorem prints?_eq_some_iff : m.prints? = some value ↔
    m.executed? = some .prn ∧ ∃ r : Register, m.state.fetch.a.toNat = r.val ∧ m.state.get r = value := by
  simp only [prints?, Option.ite_none_right_eq_some, Option.map_eq_some_iff, Register.ofByte?_eq_some_iff]

/-- One cycle more prints what its machine prints. -/
theorem filterMap_prints?_concat (earlier : List Machine) (m : Machine) :
    (earlier ++ [m]).filterMap prints? = earlier.filterMap prints? ++ m.prints?.toList := List.filterMap_append

/-- A machine that decodes the instruction to print does so if the operand names a register. -/
theorem prints?_of_decode (hm : m.status = .running) (hd : Instruction.decode m.state.fetch.op = some i) :
    m.prints? = if i = .prn then (Register.ofByte? m.state.fetch.a).map m.state.get else none := by
  rw [prints?, executed?_of_decode hm hd]
  by_cases hi : i = .prn
  · subst hi
    cases hr : Register.ofByte? m.state.fetch.a with
    | none => simp
    | some r =>
      have hlt : m.state.fetch.a.toNat < 8 := Register.ofByte?_eq_some_iff.1 hr ▸ r.isLt
      have hvalid : m.state.fetch.Valid .prn := ⟨fun _ => hlt, nofun⟩
      rw [if_pos hvalid, if_pos rfl, if_pos rfl]
  · rw [if_neg hi, if_neg]
    simp [hi]

/-! ## One cycle -/

/-- What waits to be written after an instruction is what it prints. -/
theorem Executes.printed_eq (h : m.Executes i s) (hprinted : m.state.printed = none) : s.printed = m.prints? := by
  have hi := executed?_eq_some_iff.2 ⟨s, h⟩
  by_cases hprn : i = .prn
  · subst hprn
    obtain ⟨_, _, heffect⟩ := h
    cases heffect with
    | prn hr => exact (prints?_eq_some_iff.2 ⟨hi, _, hr, rfl⟩).symm
  · rw [h.effect.printed hprn, hprinted, prints?, if_neg (by simp [hi, hprn])]

/-- **A cycle writes what it prints**, and the notice if it halts. -/
theorem sink_step (hm : m.status = .running) (hfree : m.sink.bound = none) (hprinted : m.state.printed = none) :
    m.step.machine.sink =
      ⟨m.sink.text ++ transcript m.prints?.toList (m.step.machine.status = .halted), none⟩ := by
  obtain ⟨i, s, hs⟩ | ⟨fault, hf⟩ | hne := step_cases m
  · have hhalted : decide ((if s.halted then Status.halted else .running) = .halted) = s.halted := by
      cases s.halted <;> rfl
    rw [(hs.step_of_unbounded hfree).1, ← hs.printed_eq hprinted, s.output_eq_transcript]
    simp only [hhalted]
  · obtain ⟨log, hstep⟩ := step_of_fault hf
    have hnone : m.prints? = none := if_neg (by simp [executed?_of_fault hf])
    rw [hstep, hnone]
    simp [abort, transcript_nil, ← hfree]
  · contradiction

end Machine

namespace Session

open Machine

variable {s : Session} {commands : List Command} {earlier : List Machine} {m : Machine}

/-- What is true of a machine after the cycles that began in these machines, if nothing is refused. -/
structure Recorded (earlier : List Machine) (m : Machine) : Prop where
  free : m.sink.bound = none
  consistent : m.Consistent
  text : m.sink.text = transcript (earlier.filterMap prints?) (m.status = .halted)

/-- A cycle that begins is recorded. -/
theorem Recorded.step (h : Recorded earlier m) (hm : m.status = .running) :
    Recorded (earlier ++ [m]) m.step.machine := by
  have hsink := sink_step hm h.free h.consistent.printed
  refine ⟨by rw [hsink], h.consistent.step, ?_⟩
  rw [hsink, h.text, hm, filterMap_prints?_concat, transcript_append]
  rfl

/-- A load is not recorded, as it writes nothing. -/
theorem Recorded.load (h : Recorded earlier m) (memory : Memory) :
    Recorded earlier { m with state := { m.state with memory } } :=
  ⟨h.free, ⟨h.consistent.printed, h.consistent.running, h.consistent.halted⟩, h.text⟩

/-- **Cycles are recorded** one after the other. -/
theorem Recorded.cycles {n : Nat} (h : Recorded earlier m) (hgoes : m.Goes n) :
    Recorded (earlier ++ m.course n) (m.cycles n) := by
  induction n with
  | zero => rwa [course, List.range_zero, List.map_nil, List.append_nil]
  | succ n ih =>
    have hrecorded := ih fun k hk => hgoes k (Nat.lt_succ_of_lt hk)
    rw [course_concat, ← List.append_assoc, cycles_succ]
    exact hrecorded.step (hgoes n (Nat.lt_succ_self n))

theorem recorded_start : Recorded [] (Machine.start {}) := ⟨rfl, (lawful_start {}).consistent, rfl⟩

/-- **What was printed is recorded** at every moment of a session. -/
theorem recorded_of_moment (h : (start {}).conduct commands = some s) (hm : s.Moment earlier m) :
    Recorded earlier m := by
  refine moment_induction ?_ ?_ ?_ h hm
  · exact recorded_start
  · intro earlier m memory hrecorded
    exact hrecorded.load memory
  · intro earlier m hrunning hrecorded
    exact hrecorded.step hrunning

/-- **The output is the history of what was printed.** At every moment of a session on a sink that refuses nothing, the
text has one line for each value that was printed, in the order of printing, and then the notice exactly if the machine
has halted; nothing waits to be written. A line is the decimal numeral of its value, so the values and the halt can be
read back from the text. A value is printed by a cycle that does not fail and whose instruction is to print, and it is
the one that the register has then. -/
theorem text_is_history (h : (start {}).conduct commands = some s) (hm : s.Moment earlier m) :
    m.sink.text = transcript (earlier.filterMap prints?) (m.status = .halted) ∧
    m.state.printed = none ∧
    (∀ value : Byte, Numeral value.decimal value.toNat) ∧
    readTranscript m.sink.text = (earlier.filterMap prints?, decide (m.status = .halted)) ∧
    ∀ value, m.prints? = some value ↔
      (m.status = .running ∧ m.state.fetch.op = Instruction.opcode .prn ∧ ∃ status, m.step.result = .ok status) ∧
        ∃ r : Register, m.state.fetch.a.toNat = r.val ∧ m.state.get r = value := by
  have hrecorded := recorded_of_moment h hm
  refine ⟨hrecorded.text, hrecorded.consistent.printed, numeral_decimal, ?_, ?_⟩
  · rw [hrecorded.text, readTranscript_transcript]
  · intro value
    rw [prints?_eq_some_iff, executed?_eq_some_iff_result hrecorded.free, Instruction.decode_eq_some_iff,
      eq_comm (a := m.state.fetch.op)]

/-- A session that prints 200 and 0 and halts, and then tries to go on. -/
def printTwice : List Command := [.act (.loadProgram [0x82, 0, 200, 0x47, 0, 0x47, 1, 0x01]), .run, .act .step, .run]

/-- The notice is the last line, and nothing is written after it. -/
theorem text_is_history_printTwice : ∃ s, (start {}).conduct printTwice = some s ∧ s.machine.status = .halted ∧
    s.machine.sink.text = transcript [200, 0] true ∧ readTranscript s.machine.sink.text = ([200, 0], true) ∧
      transcript [200, 0] true = "200\n0\nProgram Halted\n" := by
  obtain ⟨s, hs, hfacts⟩ := Option.map_eq_some_iff.1 (by decide +kernel :
    ((start {}).conduct printTwice).map (fun s => (s.machine.status, s.begun.filterMap prints?)) =
      some (.halted, [200, 0]))
  obtain ⟨hstatus, hvalues⟩ := Prod.mk.inj hfacts
  obtain ⟨htext, _, _, hread, _⟩ := text_is_history hs (.inr ⟨rfl, rfl⟩)
  rw [hvalues] at htext hread
  simp only [hstatus, decide_true] at htext hread
  exact ⟨s, hs, hstatus, htext, hread, by decide +kernel⟩

end Session
end ByteMachine
