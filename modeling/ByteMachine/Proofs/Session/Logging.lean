import ByteMachine.Proofs.Output.Columns
import ByteMachine.Proofs.Session.Printing

/-!
# The log is a record of the cycles

- A cycle that decodes an instruction reports it with the trace of the state before, and after that the halt if it
  halts, whatever becomes of the instruction and of its output (`step_log_of_decode`). Another one reports nothing.
- Apart from the reports of loads the log of a session is what its cycles report (`log_conduct`). It reports a halt at
  most once (`Logged.halts`).
- The values that the log announces are those that are printed (`Logged.values`), so what a sink that refuses nothing
  takes can be told from the log (`text_eq_told`).

`log_records_execution` puts this together.
-/

namespace ByteMachine

namespace Machine

variable {m : Machine} {i : Instruction} {s : State}

/-! ## One cycle -/

/-- An instruction that halts does not print. -/
theorem Executes.printed_of_halted (h : m.Executes i s) (hm : m.Consistent) (hh : s.halted = true) :
    s.printed = none := by
  have hi : i = .hlt := by
    rw [h.effect.halted, hm.running h.running] at hh
    simpa using hh
  rw [h.effect.printed (by simp [hi]), hm.printed]

theorem step_log_of_decode_none (hd : Instruction.decode m.state.fetch.op = none) : m.step.log = [] := by
  by_cases hm : m.status = .running
  · rw [step_of_decode_none hm hd]
    rfl
  · rw [step_of_not_running hm]

/-- **A cycle reports the instruction that it decodes**, also if that fails, and then the halt if it halts. -/
theorem step_log_of_decode (h : m.Consistent) (hm : m.status = .running)
    (hd : Instruction.decode m.state.fetch.op = some i) : m.step.log =
      .executing m.state.trace i :: if i = .hlt then [.halted m.step.machine.state.pc] else [] := by
  cases hr : m.state.fetch.refused? i with
  | some index =>
    have hi : i ≠ .hlt := by
      rintro rfl
      simp [Word.refused?, Instruction.registerCount] at hr
    rw [step_of_trap hm hd (execute_of_refused hr), if_neg hi]
    rfl
  | none =>
    obtain ⟨s, heffect⟩ := exists_effect (s := m.state) (Word.refused?_eq_none_iff.1 hr)
    have hs : m.Executes i s := ⟨hm, hd, heffect⟩
    have hhalted : s.halted = decide (i = .hlt) := by
      rw [heffect.halted, h.running hm, Bool.false_or]
    rw [hs.step_state, hs.step_eq, commit_log fun hh => .inl (hs.printed_of_halted h hh), hhalted]
    simp only [decide_eq_true_eq, List.singleton_append]
    rfl

/-- A cycle logs nothing and carries out nothing, or decodes an instruction and reports it. -/
theorem step_log_cases (h : m.Consistent) : (m.step.log = [] ∧ m.executed? = none) ∨
    ∃ i, m.status = .running ∧ Instruction.decode m.state.fetch.op = some i ∧ m.step.log =
      .executing m.state.trace i :: if i = .hlt then [.halted m.step.machine.state.pc] else [] := by
  by_cases hm : m.status = .running
  · cases hd : Instruction.decode m.state.fetch.op with
    | none => exact .inl ⟨step_log_of_decode_none hd, by simp [executed?, hd]⟩
    | some i => exact .inr ⟨i, hm, rfl, step_log_of_decode h hm hd⟩
  · exact .inl ⟨by rw [step_of_not_running hm], if_neg hm⟩

/-- The reports of cycles are told from the reports of loads by their levels. -/
theorem level_of_mem_step_log (h : m.Consistent) {message : Message} (hmem : message ∈ m.step.log) :
    message.level ≠ "DEBUG" := by
  obtain ⟨hlog, _⟩ | ⟨i, _, _, hlog⟩ := step_log_cases h
  · simp [hlog] at hmem
  · rw [hlog] at hmem
    obtain rfl | hmem := List.mem_cons.1 hmem
    · simp [Message.level, Message.severity, Level.name]
    · split at hmem
      · obtain rfl := List.mem_singleton.1 hmem
        simp [Message.level, Message.severity, Level.name]
      · contradiction

/-- **A cycle reports the halt** if the machine then has halted. -/
theorem countP_step_log (h : m.Consistent) (hm : m.status = .running) :
    m.step.log.countP (·.level = "INFO") = if m.step.machine.state.halted then 1 else 0 := by
  have hhalted : m.step.machine.state.halted = true ↔ m.executed? = some .hlt := by
    rw [step_halted_iff, h.running hm]
    simp
  rw [if_congr hhalted rfl rfl]
  obtain ⟨hlog, hnone⟩ | ⟨i, _, hd, hlog⟩ := step_log_cases h
  · simp [hlog, hnone]
  · have hiff : m.executed? = some .hlt ↔ i = .hlt := by
      rw [executed?_of_decode hm hd, Option.ite_none_right_eq_some, Option.some.injEq]
      refine and_iff_right_of_imp ?_
      rintro rfl
      exact ⟨nofun, nofun⟩
    rw [hlog, if_congr hiff rfl rfl]
    split <;> simp [Message.level, Message.severity, Level.name]

/-- **A cycle announces what it prints.** -/
theorem announced_step_log (h : m.Consistent) :
    (m.step.log.map Message.line).filterMap LogLine.announced? = m.prints?.toList := by
  obtain ⟨hlog, hnone⟩ | ⟨i, hm, hd, hlog⟩ := step_log_cases h
  · have hprints : m.prints? = none := if_neg (by simp [hnone])
    rw [hlog, hprints]
    rfl
  · have hrest : ((if i = .hlt then [Message.halted m.step.machine.state.pc] else []).map Message.line).filterMap
        LogLine.announced? = [] := by
      split
      · have hlevel : (Message.halted m.step.machine.state.pc).line.level ≠ "TRACE" := by
          simp [Message.line, Message.level, Message.severity, Level.name]
        simp [announced?_of_level_ne hlevel]
      · rfl
    have hfirst : (Message.executing m.state.trace i).line.announced? = m.prints? := by
      rw [announced?_executing, prints?_of_decode hm hd]
      rfl
    rw [hlog, List.map_cons, List.filterMap_cons, hrest, hfirst]
    cases m.prints? <;> rfl

end Machine

/-! ## Sessions -/

/-- What a command logs. -/
def Machine.messages (m : Machine) : Command → List Message
  | .act (.loadProgram program) => (m.loadProgram program).log
  | .act (.loadImage image) => (m.loadImage image).log
  | .act .step => m.step.log
  | .run => m.run.elim [] Reply.log

namespace Session

open Machine

/-- What the commands of a session log, one after the other. -/
def log (s : Session) : List Command → List Message
  | [] => []
  | command :: commands => s.machine.messages command ++ (s.obey command).elim [] fun t => t.log commands

/-- The text that a log tells: the values that its lines announce, and the notice if a line reports a halt. -/
def told (lines : List LogLine) : String :=
  transcript (lines.filterMap LogLine.announced?) (lines.any (·.level = "INFO"))

variable {sink : Sink} {s s' : Session} {command : Command} {commands : List Command} {earlier : List Machine}
  {m : Machine}

/-- A list of bytes is reported at a level of its own, if at all. -/
theorem level_of_mem_loadProgram_log {message : Message} {program : List Byte}
    (h : message ∈ (m.loadProgram program).log) : message.level = "DEBUG" := by
  by_cases hlength : program.length ≤ 256
  · rw [m.loadProgram_of_length_le hlength] at h
    obtain rfl := List.mem_singleton.1 h
    rfl
  · rw [m.loadProgram_of_length_gt (Nat.lt_of_not_le hlength)] at h
    contradiction

/-- So are the lines of an image. -/
theorem level_of_mem_loadImage_log {message : Message} {image : List Byte}
    (h : message ∈ (m.loadImage image).log) : message.level = "DEBUG" := by
  have hskipped (hread : message ∈ (Image.read image).log) : message.level = "DEBUG" := by
    obtain ⟨number, line, rfl⟩ := Image.exists_skipped_of_mem_log hread
    rfl
  cases hread : (Image.read image).program with
  | error fault =>
    rw [m.loadImage_of_error hread] at h
    exact hskipped h
  | ok program =>
    rw [m.loadImage_of_ok hread] at h
    obtain h | h := List.mem_append.1 h
    · exact hskipped h
    · obtain rfl := List.mem_singleton.1 h
      rfl

/-- What a command logs apart from loads is what the cycles log that begin in it. -/
theorem messages_obey (hs : s.machine.Consistent) (h : s.obey command = some s') : ∃ later,
    s'.begun = s.begun ++ later ∧
      (s.machine.messages command).filter (·.level ≠ "DEBUG") = later.flatMap fun m => m.step.log := by
  have hloads {messages : List Message} (h : ∀ message ∈ messages, message.level = "DEBUG") :
      messages.filter (·.level ≠ "DEBUG") = [] := by
    simpa [List.filter_eq_nil_iff] using h
  have hcycles (machines : List Machine) (h : ∀ m ∈ machines, m.Consistent) :
      (machines.flatMap fun m => m.step.log).filter (·.level ≠ "DEBUG") = machines.flatMap fun m => m.step.log := by
    refine List.filter_eq_self.2 fun message hmem => ?_
    obtain ⟨m, hm, hmem⟩ := List.mem_flatMap.1 hmem
    simpa using level_of_mem_step_log (h m hm) hmem
  cases command with
  | act action =>
    obtain rfl := Option.some.inj h
    cases action with
    | loadProgram program => exact ⟨[], rfl, hloads fun _ => level_of_mem_loadProgram_log⟩
    | loadImage image => exact ⟨[], rfl, hloads fun _ => level_of_mem_loadImage_log⟩
    | step =>
      refine ⟨s.machine.begun 1, rfl, ?_⟩
      by_cases hm : s.machine.status = .running
      · have hone : s.machine.begun 1 = [s.machine] := if_pos hm
        have hlog := hcycles [s.machine] (by simpa using hs)
        rw [hone, messages]
        simpa only [List.flatMap_singleton] using hlog
      · have hnone : s.machine.begun 1 = [] := if_neg hm
        rw [hnone, messages, step_of_not_running hm]
        rfl
  | run =>
    obtain ⟨reply, hrun, rfl⟩ := Option.map_eq_some_iff.1 h
    obtain ⟨n, hn, rfl⟩ := run_eq_some_iff.1 hrun
    refine ⟨s.machine.course n, ?_, ?_⟩
    · rw [begun_eq hn.1 (.inr ⟨hn.le_cycleBound, hn.2⟩)]
    · rw [messages, hrun, Option.elim_some, replyAfter, logAfter]
      refine hcycles _ fun m hm => ?_
      obtain ⟨k, _, rfl⟩ := List.mem_map.1 hm
      exact hs.cycles k

/-- **Apart from loads a session logs what its cycles log.** -/
theorem log_conduct (hs : s.Lawful) (h : s.conduct commands = some s') : ∃ later,
    s'.begun = s.begun ++ later ∧
      (s.log commands).filter (·.level ≠ "DEBUG") = later.flatMap fun m => m.step.log := by
  induction commands generalizing s with
  | nil =>
    obtain rfl := Option.some.inj h
    exact ⟨[], by simp, rfl⟩
  | cons command commands ih =>
    obtain ⟨t, hobey, hrest⟩ := conduct_cons_eq_some_iff.1 h
    obtain ⟨first, hbegun, hfirst⟩ := messages_obey hs.consistent hobey
    obtain ⟨later, hbegun', hlater⟩ := ih (hs.obey hobey) hrest
    refine ⟨first ++ later, by rw [hbegun', hbegun, List.append_assoc], ?_⟩
    rw [log, hobey, Option.elim_some, List.filter_append, hfirst, hlater, List.flatMap_append]

/-- What is true of a machine and of what the cycles have logged that began in these machines. -/
structure Logged (earlier : List Machine) (m : Machine) : Prop where
  consistent : m.Consistent
  halts : (earlier.flatMap fun m => m.step.log).countP (·.level = "INFO") = if m.state.halted then 1 else 0
  values : ((earlier.flatMap fun m => m.step.log).map Message.line).filterMap LogLine.announced? =
    earlier.filterMap prints?

theorem Logged.step (h : Logged earlier m) (hm : m.status = .running) :
    Logged (earlier ++ [m]) m.step.machine := by
  refine ⟨h.consistent.step, ?_, ?_⟩
  · rw [List.flatMap_append, List.flatMap_singleton, List.countP_append, h.halts, h.consistent.running hm,
      countP_step_log h.consistent hm]
    exact Nat.zero_add _
  · rw [List.flatMap_append, List.flatMap_singleton, List.map_append, List.filterMap_append, h.values,
      announced_step_log h.consistent, filterMap_prints?_concat]

theorem logged_of_moment (h : (start sink).conduct commands = some s) (hm : s.Moment earlier m) :
    Logged earlier m := by
  refine moment_induction ?_ ?_ ?_ h hm
  · exact ⟨(lawful_start sink).consistent, rfl, rfl⟩
  · intro earlier m memory hlogged
    have hconsistent := hlogged.consistent
    exact ⟨⟨hconsistent.printed, hconsistent.running, hconsistent.halted⟩, hlogged.halts, hlogged.values⟩
  · intro earlier m hrunning hlogged
    exact hlogged.step hrunning

/-- Apart from loads the log of a session is what its cycles log. -/
theorem filter_log (h : (start sink).conduct commands = some s) :
    ((start sink).log commands).filter (·.level ≠ "DEBUG") = s.begun.flatMap fun m => m.step.log := by
  obtain ⟨later, hbegun, hlog⟩ := log_conduct (lawful_start sink) h
  rw [hlog, hbegun]
  rfl

/-- **A session logs a halt once** if the state has halted, and otherwise never. -/
theorem countP_log (h : (start sink).conduct commands = some s) :
    ((start sink).log commands).countP (·.level = "INFO") = if s.machine.state.halted then 1 else 0 := by
  have hfilter : ((start sink).log commands).countP (·.level = "INFO") =
      (((start sink).log commands).filter (·.level ≠ "DEBUG")).countP (·.level = "INFO") := by
    rw [List.countP_filter]
    refine List.countP_congr fun message _ => ?_
    simp
    intro h
    simp [h]
  rw [hfilter, filter_log h]
  exact (logged_of_moment h (.inr ⟨rfl, rfl⟩)).halts

/-- Reports of loads announce nothing. -/
theorem announced_filter (messages : List Message) :
    ((messages.filter (·.level ≠ "DEBUG")).map Message.line).filterMap LogLine.announced? =
      (messages.map Message.line).filterMap LogLine.announced? := by
  rw [List.filterMap_map, List.filterMap_map, List.filterMap_filter]
  refine List.filterMap_congr fun message _ => ?_
  by_cases hlevel : message.level = "DEBUG"
  · have hline : message.line.level ≠ "TRACE" := by simp [Message.line, hlevel]
    simp [hlevel, announced?_of_level_ne hline]
  · simp [hlevel]

/-- With a sink that refuses nothing the status is that the machine halted if the state has halted. -/
theorem status_eq_halted_iff (h : (start {}).conduct commands = some s) :
    s.machine.status = .halted ↔ s.machine.state.halted = true := by
  refine (halted_iff_of_conduct h).2.2.2 fun m hm => ?_
  obtain ⟨earlier, later, hbegun⟩ := List.append_of_mem hm
  have hfree := (recorded_of_moment h (.inl ⟨later, hbegun⟩)).free
  rintro ⟨hi, refusal, hrefused⟩
  obtain ⟨_, _, status, hresult⟩ := (executed?_eq_some_iff_result hfree).1 hi
  rw [hresult] at hrefused
  contradiction

/-- **The output can be told from the log.** -/
theorem text_eq_told (h : (start {}).conduct commands = some s) :
    s.machine.sink.text = told (((start {}).log commands).map Message.line) := by
  have hlast : s.Moment s.begun s.machine := .inr ⟨rfl, rfl⟩
  have hvalues : (((start {}).log commands).map Message.line).filterMap LogLine.announced? =
      s.begun.filterMap prints? := by
    rw [← announced_filter, filter_log h, (logged_of_moment h hlast).values]
  have hhalts : (((start {}).log commands).map Message.line).any (·.level = "INFO") =
      decide (s.machine.status = .halted) := by
    have hcount : (∃ message ∈ (start {}).log commands, message.level = "INFO") ↔ s.machine.state.halted = true := by
      have hpos := List.countP_pos_iff (l := (start {}).log commands) (p := (·.level = "INFO"))
      rw [countP_log h] at hpos
      cases hh : s.machine.state.halted <;> simpa [hh] using hpos
    rw [Bool.eq_iff_iff, decide_eq_true_eq, status_eq_halted_iff h, ← hcount, List.any_map]
    simp only [List.any_eq_true, Function.comp_apply, decide_eq_true_eq]
    rfl
  rw [told, hvalues, hhalts]
  exact (recorded_of_moment h hlast).text

/-- **The log is an exact record of execution**, whatever the sink. At every moment of a session a cycle of a machine
that does not run, or at a byte that is no opcode, logs nothing. Any other one logs one trace, which shows the state
before it and names the instruction, also if the instruction fails or its output is refused. Exactly if the instruction
is to halt a report of that follows, with the program counter that it leaves, also if the notice is refused. A run logs
what its cycles log, one after the other. Apart from the reports of loads that is the whole log of a session, and a
halt is reported once at most. If the sink refuses nothing, then its text can be told from the log: it has one line for
each trace that names the instruction to print and an operand that names a register, with the value that the trace
shows of that register, and the notice exactly if a halt is reported. -/
theorem log_records_execution (h : (start sink).conduct commands = some s) (hm : s.Moment earlier m) :
    (m.status ≠ .running ∨ Instruction.decode m.state.fetch.op = none → m.step.log = []) ∧
    (∀ i, m.status = .running → Instruction.decode m.state.fetch.op = some i → m.step.log.map Message.line =
      ⟨"TRACE", m.state.trace.text ++ " " ++ i.mnemonic⟩ ::
        if i = .hlt then [⟨"INFO", "halted at " ++ m.step.machine.state.pc.marked⟩] else []) ∧
    (∀ r, m.run = some r → ∃ n, m.Stops n ∧ r.machine = m.cycles n ∧
      r.log = (m.course n).flatMap fun m => m.step.log) ∧
    (((start sink).log commands).filter (·.level ≠ "DEBUG") = s.begun.flatMap fun m => m.step.log) ∧
    ((start sink).log commands).countP (·.level = "INFO") ≤ 1 ∧
    (sink = {} → s.machine.sink.text = told (((start sink).log commands).map Message.line)) := by
  refine ⟨?_, ?_, ?_, filter_log h, ?_, ?_⟩
  · rintro (hstatus | hd)
    · rw [step_of_not_running hstatus]
    · exact step_log_of_decode_none hd
  · intro i hrunning hd
    rw [step_log_of_decode (logged_of_moment h hm).consistent hrunning hd, List.map_cons]
    split <;> rfl
  · intro r hrun
    obtain ⟨n, hn, rfl⟩ := run_eq_some_iff.1 hrun
    exact ⟨n, hn, rfl, rfl⟩
  · rw [countP_log h]
    split <;> decide
  · rintro rfl
    exact text_eq_told h

/-- A session that prints 7 and halts. -/
def printSeven : List Command := [.act (.loadProgram [0x82, 0, 7, 0x47, 0, 0x01]), .run]

/-- What is seen of its log. -/
def linesOfSeven : List LogLine :=
  [⟨"DEBUG", "loaded 6 bytes"⟩,
    ⟨"TRACE", "TRACE: 00 | 82 00 07 | 00 00 00 00 00 00 00 F4 LDI"⟩,
    ⟨"TRACE", "TRACE: 03 | 47 00 01 | 07 00 00 00 00 00 00 F4 PRN"⟩,
    ⟨"TRACE", "TRACE: 05 | 01 00 00 | 07 00 00 00 00 00 00 F4 HLT"⟩,
    ⟨"INFO", "halted at 0x06"⟩]

/-- The log tells the output. It is the same if there is room for the number only, and then still reports the halt. -/
theorem log_records_execution_printSeven :
    (∃ s, (start {}).conduct printSeven = some s ∧ ((start {}).log printSeven).map Message.line = linesOfSeven ∧
      s.machine.sink.text = told linesOfSeven ∧ told linesOfSeven = "7\nProgram Halted\n") ∧
    ∃ s, (start { bound := some (2, .full) }).conduct printSeven = some s ∧ s.machine.status = .aborted ∧
      ((start { bound := some (2, .full) }).log printSeven).map Message.line = linesOfSeven ∧
      ((start { bound := some (2, .full) }).log printSeven).filter (·.level ≠ "DEBUG") =
        s.begun.flatMap fun m => m.step.log := by
  constructor
  · obtain ⟨s, hs, _⟩ := Option.map_eq_some_iff.1 (by decide +kernel :
      ((start {}).conduct printSeven).map (·.machine.status) = some .halted)
    have hlines : ((start {}).log printSeven).map Message.line = linesOfSeven := by decide +kernel
    obtain ⟨_, _, _, _, _, htext⟩ := log_records_execution hs (.inr ⟨rfl, rfl⟩)
    exact ⟨s, hs, hlines, hlines ▸ htext rfl, by decide +kernel⟩
  · obtain ⟨s, hs, hstatus⟩ := Option.map_eq_some_iff.1 (by decide +kernel :
      ((start { bound := some (2, .full) }).conduct printSeven).map (·.machine.status) = some .aborted)
    obtain ⟨_, _, _, hlog, _, _⟩ := log_records_execution hs (.inr ⟨rfl, rfl⟩)
    exact ⟨s, hs, hstatus, by decide +kernel, hlog⟩

end Session
end ByteMachine
