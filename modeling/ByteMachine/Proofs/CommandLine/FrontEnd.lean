import ByteMachine.CommandLine.Folder
import ByteMachine.CommandLine.Report
import ByteMachine.Proofs.CommandLine.Aloud
import ByteMachine.Proofs.Session.Printing

/-!
# The command is a front end

- No message of the machine or of the loader is a warning, and all that the command complains of is more than one
  (`Account.alarms_ofMessages`). So of the whole log a lawful logger shows the complaints (`ofAccount_eq`).
- A program that was read is always placed in memory, so either the program cannot be read and nothing is started
  (`prepare_of_error`), or the account is that of running it on a new machine (`ofFile_of_ok`).
- What the command adds to the text and the log of the machine depends on the result of the run
  (`tells_append_ofReply`). The machine writes its values, and then the notice if it has halted (`exists_transcript`).
  So the notice is the last line exactly if there is no alarm (`Tells.silent_iff`), and this holds of every file
  (`silent_iff_of_ofFile`).

`command_tells_run` puts this together.
-/

namespace ByteMachine

/-- The content has a program, and its run ends because it halts. -/
def Halts (content : Except LoadFault (List Byte)) : Prop :=
  ∃ program reply, (Image.readContent content).program = .ok program ∧ (Machine.loaded program).run = some reply ∧
    reply.result = .ok .halted

namespace Account

/-- The records that are at least a warning. -/
def alarms (account : Account) : List Record := account.log.filter (Report.logLevel ≤ ·.level)

/-- The account that is due after a run: the text of the machine, with a line more if the run met a byte that is no
opcode, and one complaint if the run has failed. -/
structure Tells (account : Account) (reply : Reply Fault Status) : Prop where
  ended : ∀ status, reply.result = .ok status → account.text = reply.machine.sink.text ∧ account.alarms = []
  noOpcode : ∀ op pc, reply.result = .error (.invalidInstruction op pc) →
    account.text = reply.machine.sink.text ++ "Error: not a valid instruction\n" ∧
      account.alarms = [.complaint (Fault.invalidInstruction op pc).message]
  stopped : ∀ fault, reply.result = .error fault → (∀ op pc, fault ≠ .invalidInstruction op pc) →
    account.text = reply.machine.sink.text ∧ account.alarms = [.complaint ("execution stopped: " ++ fault.message)]

variable {path : String} {content : Except LoadFault (List Byte)} {program : List Byte} {fault : LoadFault}
  {reply : Reply Fault Status} {account : Account}

/-! ## Alarms -/

@[simp] theorem alarms_append (a b : Account) : (a ++ b).alarms = a.alarms ++ b.alarms :=
  List.filter_append a.log b.log

/-- **No message of the machine is an alarm.** -/
@[simp] theorem alarms_ofMessages (text : String) (messages : List Message) :
    (ofMessages text messages).alarms = [] := by
  rw [alarms, ofMessages, List.filter_eq_nil_iff]
  intro record hrecord
  obtain ⟨message, _, rfl⟩ := List.mem_map.1 hrecord
  have hbelow : ¬ Report.logLevel ≤ (Record.logged message).level := Level.not_le.2 message.severity_lt_warn
  simpa using hbelow

theorem alarms_messages_complaint (text : String) (messages : List Message) (complaint : String) :
    alarms ⟨text, messages.map .logged ++ [.complaint complaint]⟩ = [.complaint complaint] := by
  rw [alarms, List.filter_append]
  exact congrArg (· ++ [Record.complaint complaint]) (alarms_ofMessages text messages)

/-! ## Programs that cannot be read -/

/-- Without a program nothing is started. -/
theorem prepare_of_error (h : (Image.readContent content).program = .error fault) :
    prepare path content = (ofMessages "" (Image.readContent content).log ++ ofUnread path fault, none) := by
  rw [prepare, h]

theorem ofFile_of_error (h : (Image.readContent content).program = .error fault) :
    ofFile path content = some (ofMessages "" (Image.readContent content).log ++ ofUnread path fault) := by
  rw [ofFile, prepare_of_error h]

/-- If there is no file, this is said. -/
theorem prepare_of_missing (path : String) : prepare path (.error (.missing path)) =
    (⟨"File not found ...\n", [.complaint ("no program at " ++ path)]⟩, none) := rfl

/-- An image without a program is told by the log only. -/
theorem prepare_of_read_error (path : String) {image : List Byte} (h : (Image.read image).program = .error fault) :
    prepare path (.ok image) = (⟨"", (Image.read image).log.map .logged ++
      [.complaint ("unable to load " ++ path ++ ": " ++ fault.message)]⟩, none) := by
  have hunread : ofUnread path fault = ofUnloaded path fault := by
    cases fault with
    | missing path =>
      simp only [Image.read] at h
      split at h
      · split at h <;> simp at h
      · simp at h
    | unreadable fault => rfl
    | tooLarge size => rfl
  have hprogram : (Image.readContent (.ok image)).program = .error fault := h
  rw [prepare_of_error hprogram, hunread]
  rfl

/-- A program that cannot be read leaves an alarm, and no line that could be the notice. -/
theorem ofUnread_not_silent (path : String) (fault : LoadFault) :
    (ofUnread path fault).alarms ≠ [] ∧ lastLine? (ofUnread path fault).text ≠ some haltNotice := by
  have hempty : lastLine? "" ≠ some haltNotice := by decide +kernel
  have hmissing : lastLine? "File not found ...\n" ≠ some haltNotice := by decide +kernel
  cases fault with
  | missing path => exact ⟨List.cons_ne_nil _ _, hmissing⟩
  | unreadable fault => exact ⟨List.cons_ne_nil _ _, hempty⟩
  | tooLarge size => exact ⟨List.cons_ne_nil _ _, hempty⟩

/-! ## Programs that are run -/

theorem length_le_of_read (h : (Image.readContent content).program = .ok program) : program.length ≤ 256 := by
  cases content with
  | error fault => simp [Image.readContent] at h
  | ok image => exact Image.length_le_of_program_read h

/-- A program that was read is ready to run, and its loading is logged. -/
theorem prepare_of_ok (h : (Image.readContent content).program = .ok program) : prepare path content =
    (ofMessages "" ((Image.readContent content).log ++ [.loaded program.length]), some (Machine.loaded program)) := by
  have hload := Machine.loadProgram_of_length_le (.start {}) (length_le_of_read h)
  simp only [prepare, h, Machine.loaded, hload]

theorem ofFile_of_ok (h : (Image.readContent content).program = .ok program) : ofFile path content =
    (Machine.loaded program).run.map fun reply =>
      ofMessages "" ((Image.readContent content).log ++ [.loaded program.length]) ++ ofReply reply := by
  rw [ofFile, prepare_of_ok h]

/-- The alarms after a run are those for its result. -/
theorem alarms_append_ofReply (messages : List Message) (reply : Reply Fault Status) :
    (ofMessages "" messages ++ ofReply reply).alarms = (ofResult reply.result).alarms := by
  rw [ofReply, alarms_append, alarms_append, alarms_ofMessages, alarms_ofMessages, List.nil_append, List.nil_append]

/-- After the messages the log holds alarms only. -/
theorem log_append_ofReply (messages : List Message) (reply : Reply Fault Status) :
    (ofMessages "" messages ++ ofReply reply).log =
      (messages ++ reply.log).map .logged ++ (ofMessages "" messages ++ ofReply reply).alarms := by
  have hresult : (ofResult reply.result).log = (ofResult reply.result).alarms := by
    rcases reply.result with (_ | _ | _) | _ <;> rfl
  rw [alarms_append_ofReply, ← hresult, List.map_append, List.append_assoc]
  rfl

/-- **What the command adds** to the account of the machine is what is due. -/
theorem tells_append_ofReply (messages : List Message) (reply : Reply Fault Status) :
    (ofMessages "" messages ++ ofReply reply).Tells reply := by
  have htext : (ofMessages "" messages ++ ofReply reply).text =
      reply.machine.sink.text ++ (ofResult reply.result).text := String.empty_append
  have halarms := alarms_append_ofReply messages reply
  refine ⟨?_, ?_, ?_⟩
  · intro status hresult
    rw [htext, halarms, hresult]
    exact ⟨String.append_empty, rfl⟩
  · intro op pc hresult
    rw [htext, halarms, hresult]
    exact ⟨rfl, rfl⟩
  · intro fault hresult hop
    rw [htext, halarms, hresult]
    cases fault with
    | invalidInstruction op pc => exact absurd rfl (hop op pc)
    | trapped trap => exact ⟨String.append_empty, rfl⟩
    | output refusal => exact ⟨String.append_empty, rfl⟩

/-- A program that has ended has written its values, and the notice if it has halted. -/
theorem exists_transcript (h : (Machine.loaded program).run = some reply) :
    ∃ values, reply.machine.sink.text = transcript values (reply.machine.status = .halted) := by
  obtain ⟨memory, hloaded⟩ := (Machine.start {}).loadProgram_machine program
  obtain ⟨n, hn, rfl⟩ := Machine.run_eq_some_iff.1 h
  have hrecorded := Session.recorded_start.load memory
  rw [← hloaded] at hrecorded
  exact ⟨_, (hrecorded.cycles hn.1).text⟩

/-- Loading leaves a new machine running, with an empty sink. -/
theorem loaded_running (program : List Byte) :
    (Machine.loaded program).status = .running ∧ (Machine.loaded program).sink = {} := by
  obtain ⟨memory, hloaded⟩ := (Machine.start {}).loadProgram_machine program
  rw [Machine.loaded, hloaded]
  exact ⟨rfl, rfl⟩

theorem halts_iff (hprogram : (Image.readContent content).program = .ok program)
    (hrun : (Machine.loaded program).run = some reply) : Halts content ↔ reply.result = .ok .halted := by
  constructor
  · rintro ⟨program', reply', hprogram', hrun', hresult⟩
    obtain rfl := Except.ok.inj (hprogram.symm.trans hprogram')
    obtain rfl := Option.some.inj (hrun.symm.trans hrun')
    exact hresult
  · intro hresult
    exact ⟨program, reply, hprogram, hrun, hresult⟩

/-- After a run that fails there is an alarm, and the command adds a line at most. -/
theorem Tells.of_error (h : account.Tells reply) {reason : Fault} (hresult : reply.result = .error reason) :
    account.alarms ≠ [] ∧ ∃ lines, account.text = reply.machine.sink.text ++ unlines lines ∧
      ∀ line ∈ lines, line = "Error: not a valid instruction" := by
  by_cases hop : ∃ op pc, reason = .invalidInstruction op pc
  · obtain ⟨op, pc, rfl⟩ := hop
    obtain ⟨htext, halarms⟩ := h.noOpcode op pc hresult
    exact ⟨by simp [halarms], ["Error: not a valid instruction"], htext, by simp⟩
  · obtain ⟨htext, halarms⟩ := h.stopped reason hresult fun op pc hreason => hop ⟨op, pc, hreason⟩
    exact ⟨by simp [halarms], [], htext.trans String.append_empty.symm, by simp⟩

/-- After a program that fails the notice is not the last line, as it is no line at all. -/
theorem Tells.lastLine?_ne (h : account.Tells reply) (hrun : (Machine.loaded program).run = some reply)
    {reason : Fault} (hresult : reply.result = .error reason) (hstatus : reply.machine.status = .aborted) :
    lastLine? account.text ≠ some haltNotice := by
  obtain ⟨values, htext⟩ := exists_transcript hrun
  obtain ⟨_, lines, hstdout, hlines⟩ := h.of_error hresult
  have hall : ∀ line ∈ values.map Byte.decimal ++ lines, '\n' ∉ line.toList ∧ line ≠ haltNotice := by
    intro line hline
    obtain hline | hline := List.mem_append.1 hline
    · obtain ⟨value, _, rfl⟩ := List.mem_map.1 hline
      exact ⟨lineFeed_not_mem_decimal value, fun h => decimal_ne_haltNotice value (congrArg _ h)⟩
    · rw [hlines line hline]
      decide
  have htranscript : account.text = unlines (values.map Byte.decimal ++ lines) := by
    rw [hstdout, htext, hstatus, unlines_append, transcript]
    simp
  rw [htranscript, lastLine?_unlines fun line hline => (hall line hline).1]
  intro hlast
  exact (hall _ (List.mem_of_getLast? hlast)).2 rfl

/-- After a program that halts the notice is the last line. -/
theorem Tells.lastLine?_eq (h : account.Tells reply) (hrun : (Machine.loaded program).run = some reply)
    (hresult : reply.result = .ok .halted) (hstatus : reply.machine.status = .halted) :
    lastLine? account.text = some haltNotice := by
  obtain ⟨values, htext⟩ := exists_transcript hrun
  rw [(h.ended _ hresult).1, htext, hstatus]
  exact lastLine?_transcript_true values

/-- **An account has no alarm exactly if the program has halted**, and then the notice is its last line. -/
theorem Tells.silent_iff (h : account.Tells reply) (hrun : (Machine.loaded program).run = some reply) :
    (account.alarms = [] ↔ lastLine? account.text = some haltNotice) ∧
      (account.alarms = [] ↔ reply.result = .ok .halted) := by
  obtain ⟨hresult, hstatus⟩ | ⟨reason, hresult, hstatus⟩ := Machine.run_cases (loaded_running program).1 hrun
  · have hsilent := (h.ended _ hresult).2
    exact ⟨iff_of_true hsilent (h.lastLine?_eq hrun hresult hstatus), iff_of_true hsilent hresult⟩
  · have halarms := (h.of_error hresult).1
    exact ⟨iff_of_false halarms (h.lastLine?_ne hrun hresult hstatus), iff_of_false halarms (by simp [hresult])⟩

/-- **No alarm, the notice as the last line, and a program that halts** come together, whatever the file holds. -/
theorem silent_iff_of_ofFile (h : ofFile path content = some account) :
    (account.alarms = [] ↔ lastLine? account.text = some haltNotice) ∧ (account.alarms = [] ↔ Halts content) := by
  cases hprogram : (Image.readContent content).program with
  | error fault =>
    rw [ofFile_of_error hprogram, Option.some.injEq] at h
    obtain ⟨halarms, hlast⟩ := ofUnread_not_silent path fault
    have hlouder : account.alarms = (ofUnread path fault).alarms := by simp [← h]
    have htext : account.text = (ofUnread path fault).text := by
      rw [← h]
      exact String.empty_append
    rw [hlouder, htext]
    refine ⟨iff_of_false halarms hlast, iff_of_false halarms ?_⟩
    rintro ⟨program, _, hok, _⟩
    simp [hprogram] at hok
  | ok program =>
    rw [ofFile_of_ok hprogram] at h
    obtain ⟨reply, hrun, rfl⟩ := Option.map_eq_some_iff.1 h
    obtain ⟨hlast, hhalts⟩ := (tells_append_ofReply _ reply).silent_iff hrun
    exact ⟨hlast, hhalts.trans (halts_iff hprogram hrun).symm⟩

end Account

namespace Report

variable {parser : ArgumentParser} {logger : Logger} {read : String → Except LoadFault (List Byte)} {path : String}
  {account : Account}

/-! ## The command -/

/-- The report that is due for an account: its text, and what the logger writes for each alarm. -/
def ofAlarms (logger : Logger) (account : Account) : Report where
  stdout := account.text
  stderr := String.join (account.alarms.map (logger.write logLevel))

/-- **Of the log the alarms are seen**, and nothing else. -/
theorem ofAccount_eq (hlogger : logger.Lawful) (account : Account) :
    ofAccount logger account = ofAlarms logger account := by
  rw [ofAccount, hlogger.opening_eq_empty, hlogger.written_eq, String.empty_append]
  rfl

theorem ofCommand_singleton (hparser : parser.TakesPath) (hlogger : logger.Lawful) (hpath : path ≠ "")
    (hhyphen : path.toList.head? ≠ some '-') :
    ofCommand parser logger read [path] = (Account.ofFile path (read path)).map (ofAlarms logger) := by
  rw [ofCommand, hparser path hpath hhyphen, funext (ofAccount_eq hlogger)]

/-- Standard error stays empty iff there is no alarm. -/
theorem stderr_ofAlarms_eq_empty_iff (hlogger : logger.Lawful) :
    (ofAlarms logger account).stderr = "" ↔ account.alarms = [] := by
  rw [ofAlarms]
  cases halarms : account.alarms with
  | nil => simp
  | cons record rest =>
    have hmem : record ∈ account.alarms := halarms ▸ List.mem_cons_self
    have hlevel : logLevel ≤ record.level := by simpa using (List.mem_filter.1 hmem).2
    simp [hlogger.write_ne_empty hlevel]

/-- **The command tells what the program did**, with any parser of arguments that takes a path and any lawful logger.
For a path that is neither empty nor an option:

- If there is no file, this is said and one complaint is made.
- If no program can be read from the file, one complaint is made, nothing else is said, and no machine is started.
- If one can be read it is always placed in memory, and the command ends exactly if the run of the new machine ends.
  Then the text is that of the machine, with a line more exactly if a byte was no opcode. The log is that of reading,
  loading and running, with one complaint exactly if the run has failed. All this may as well be shown cycle by cycle.

The code is 0, and of the log the logger writes the complaint on standard error, if there is one, and nothing else. So
standard error is empty exactly if the notice is the last line, and exactly if the program has halted. -/
theorem command_tells_run (parser : ArgumentParser) (logger : Logger) (hparser : parser.TakesPath)
    (hlogger : logger.Lawful) (read : String → Except LoadFault (List Byte)) (path : String) (hpath : path ≠ "")
    (hhyphen : path.toList.head? ≠ some '-') :
    (read path = .error (.missing path) → ∃ account, Account.prepare path (read path) = (account, none) ∧
      account.text = "File not found ...\n" ∧ account.alarms = [.complaint ("no program at " ++ path)] ∧
      ofCommand parser logger read [path] = some (ofAlarms logger account)) ∧
    (∀ content, read path = .ok content →
      (∀ fault, (Image.read content).program = .error fault → ∃ account,
        Account.prepare path (read path) = (account, none) ∧ account.text = "" ∧
        account.alarms = [.complaint ("unable to load " ++ path ++ ": " ++ fault.message)] ∧
        account.log = (Image.read content).log.map .logged ++ account.alarms ∧
        ofCommand parser logger read [path] = some (ofAlarms logger account)) ∧
      ∀ program, (Image.read content).program = .ok program →
        ((Machine.start {}).loadProgram program).result = .ok program.length ∧
        (ofCommand parser logger read [path] = none ↔ (Machine.loaded program).run = none) ∧
        ∀ reply, (Machine.loaded program).run = some reply →
          (∃ account, Account.ofFile path (read path) = some account ∧ account.Tells reply ∧
            account.log =
              ((Image.read content).log ++ .loaded program.length :: reply.log).map .logged ++ account.alarms ∧
            ofCommand parser logger read [path] = some (ofAlarms logger account)) ∧
          (Machine.loaded program).Aloud reply.machine.sink.text reply.log reply.result) ∧
    ∀ report, ofCommand parser logger read [path] = some report →
      report.code = 0 ∧
      (report.stderr = "" ↔ lastLine? report.stdout = some haltNotice) ∧
      (report.stderr = "" ↔ Halts (read path)) := by
  rw [ofCommand_singleton hparser hlogger hpath hhyphen]
  refine ⟨?_, ?_, ?_⟩
  · intro hread
    rw [hread]
    exact ⟨_, Account.prepare_of_missing path, rfl, rfl, rfl⟩
  · intro content hread
    rw [hread]
    refine ⟨?_, ?_⟩
    · intro fault hfault
      have hprepare := Account.prepare_of_read_error path hfault
      have halarms := Account.alarms_messages_complaint "" (Image.read content).log
        ("unable to load " ++ path ++ ": " ++ fault.message)
      refine ⟨_, hprepare, rfl, halarms, by rw [halarms], ?_⟩
      rw [Account.ofFile, hprepare]
      rfl
    · intro program hprogram
      have hload := Machine.loadProgram_of_length_le (.start {}) (Image.length_le_of_program_read hprogram)
      have hread' : (Image.readContent (.ok content)).program = .ok program := hprogram
      rw [Account.ofFile_of_ok hread', hload]
      refine ⟨rfl, by simp, ?_⟩
      intro reply hrun
      obtain ⟨hrunning, hsink⟩ := Account.loaded_running program
      refine ⟨?_, (Machine.aloud_iff hrunning hsink).2 ⟨reply, hrun, rfl, rfl, rfl⟩⟩
      rw [hrun]
      refine ⟨_, rfl, Account.tells_append_ofReply _ reply, ?_, rfl⟩
      rw [Account.log_append_ofReply, List.append_assoc]
      rfl
  · intro report hreport
    obtain ⟨account, haccount, rfl⟩ := Option.map_eq_some_iff.1 hreport
    rw [stderr_ofAlarms_eq_empty_iff hlogger]
    exact ⟨rfl, Account.silent_iff_of_ofFile haccount⟩

/-- An image with a line to skip, whose program prints 7 and then meets a byte that is no opcode. -/
def printsAndFails : List Byte := "# seven\n10000010\n0\n111\n1000111\n0\n11111111\n".toUTF8.data.toList

/-- In a folder with this image only, another path leads to no file, and the image is run. What was skipped and executed
is logged and not seen. -/
theorem command_tells_run_printsAndFails :
    let read := (({} : Folder).insert "prints.ls8" (.file printsAndFails)).read
    ofArgs read ["other.ls8"] = some
      { stdout := "File not found ...\n", stderr := "ERROR [ls8::run] no program at other.ls8\n" } ∧
    ofArgs read ["prints.ls8"] = some
      { stdout := "7\nError: not a valid instruction\n"
        stderr := "ERROR [ls8::run] not a valid instruction: 0xff at 0x05\n" } ∧
    ¬ Halts (read "prints.ls8") := by
  intro read
  have hother : read "other.ls8" = .error (.missing "other.ls8") := by decide +kernel
  have hprints : read "prints.ls8" = .ok printsAndFails := by decide +kernel
  have hprogram : (Image.read printsAndFails).program = .ok [0x82, 0, 7, 0x47, 0, 0xFF] := by decide +kernel
  obtain ⟨reply, hrun, hreply⟩ := Option.map_eq_some_iff.1 (by decide +kernel :
    (Machine.loaded [0x82, 0, 7, 0x47, 0, 0xFF]).run.map (fun reply => (reply.result, reply.machine.sink.text)) =
      some (.error (.invalidInstruction 0xFF 5), "7\n"))
  obtain ⟨hresult, hmachine⟩ := Prod.mk.inj hreply
  obtain ⟨missing, _, htext, halarms, hmissing⟩ := (command_tells_run .plain .plain ArgumentParser.plain_takesPath
    Logger.plain_lawful read "other.ls8" (by decide) (by decide)).1 hother
  have hsaid : ofAlarms .plain missing =
      { stdout := "File not found ...\n", stderr := "ERROR [ls8::run] no program at other.ls8\n" } := by
    rw [ofAlarms, htext, halarms]
    decide +kernel
  obtain ⟨_, hrest, hnotice⟩ := command_tells_run .plain .plain ArgumentParser.plain_takesPath
    Logger.plain_lawful read "prints.ls8" (by decide) (by decide)
  obtain ⟨_, _, hreport⟩ := (hrest printsAndFails hprints).2 _ hprogram
  obtain ⟨⟨account, _, htells, _, hcommand⟩, _⟩ := hreport reply hrun
  obtain ⟨htext', halarms'⟩ := htells.noOpcode 0xFF 5 hresult
  have hfailed : ofAlarms .plain account =
      { stdout := "7\nError: not a valid instruction\n"
        stderr := "ERROR [ls8::run] not a valid instruction: 0xff at 0x05\n" } := by
    rw [ofAlarms, htext', halarms', hmachine]
    decide +kernel
  rw [hfailed] at hcommand
  refine ⟨hmissing.trans (congrArg some hsaid), hcommand, fun hhalts => ?_⟩
  obtain ⟨_, _, hsilent⟩ := hnotice _ hcommand
  exact absurd (hsilent.2 hhalts) (by decide)

end Report
end ByteMachine
