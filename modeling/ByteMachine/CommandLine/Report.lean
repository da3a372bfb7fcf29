import ByteMachine.CommandLine.Plain
import ByteMachine.Machine.Run

/-!
# Reports

What the command writes and the code that it ends with. A program that cannot be loaded is never started; one that is
started writes its own output first, then the command adds why it stopped if that was a fault.

All that happens is told in an `Account`: the text on standard output, and the log. The whole log goes to the logger,
which writes what is at least a warning on standard error (`Report.ofAccount`).
-/

namespace ByteMachine

/-- What has been printed and logged. -/
structure Account where
  text : String := ""
  log : List Record := []
deriving DecidableEq

namespace Account

instance : Append Account := ⟨fun a b => ⟨a.text ++ b.text, a.log ++ b.log⟩⟩

@[simp] theorem text_append (a b : Account) : (a ++ b).text = a.text ++ b.text := rfl

@[simp] theorem log_append (a b : Account) : (a ++ b).log = a.log ++ b.log := rfl

/-- Messages of the machine, after it has written this text. -/
def ofMessages (text : String) (messages : List Message) : Account := ⟨text, messages.map .logged⟩

/-- A program that was not loaded from `path`. -/
def ofUnloaded (path : String) (fault : LoadFault) : Account :=
  { log := [.complaint ("unable to load " ++ path ++ ": " ++ fault.message)] }

/-- A program that was not read from `path`. -/
def ofUnread (path : String) : LoadFault → Account
  | .missing path => { text := "File not found ...\n", log := [.complaint ("no program at " ++ path)] }
  | fault => ofUnloaded path fault

/-- What the command adds when a run has ended. -/
def ofResult : Except Fault Status → Account
  | .ok _ => {}
  | .error (.invalidInstruction op pc) =>
    { text := "Error: not a valid instruction\n", log := [.complaint (Fault.invalidInstruction op pc).message] }
  | .error fault => { log := [.complaint ("execution stopped: " ++ fault.message)] }

/-- A run that has ended. -/
def ofReply (reply : Reply Fault Status) : Account :=
  ofMessages reply.machine.sink.text reply.log ++ ofResult reply.result

/-- The machine with the program of a file, if there is one, and what is to be told so far. -/
def prepare (path : String) (content : Except LoadFault (List Byte)) : Account × Option Machine :=
  let reading := Image.readContent content
  match reading.program with
  | .error fault => (ofMessages "" reading.log ++ ofUnread path fault, none)
  | .ok program =>
    let reply := (Machine.start {}).loadProgram program
    let account := ofMessages "" (reading.log ++ reply.log)
    match reply.result with
    | .error fault => (account ++ ofUnloaded path fault, none)
    | .ok _ => (account, some reply.machine)

/-- The account of running the file at `path`; `none` if its program never ends. -/
def ofFile (path : String) (content : Except LoadFault (List Byte)) : Option Account :=
  match prepare path content with
  | (account, none) => some account
  | (account, some machine) => machine.run.map fun reply => account ++ ofReply reply

end Account

structure Report where
  code : UInt8 := 0
  stdout : String := ""
  stderr : String := ""
deriving DecidableEq, Repr

namespace Report

/-- The level with which the command sets up its logger. -/
def logLevel : Level := .warn

def ofAccount (logger : Logger) (account : Account) : Report where
  stdout := account.text
  stderr := logger.opening ++ logger.written logLevel account.log

/-- The report of the whole command, where `read` gives the contents of files. -/
def ofCommand (parser : ArgumentParser) (logger : Logger) (read : String → Except LoadFault (List Byte))
    (args : List String) : Option Report :=
  match parser args with
  | .run path => (Account.ofFile path (read path)).map (ofAccount logger)
  | .leave code stdout stderr => some { code, stdout, stderr := logger.opening ++ stderr }

/-- The report of the command as it is built here. -/
def ofArgs (read : String → Except LoadFault (List Byte)) (args : List String) : Option Report :=
  ofCommand .plain .plain read args

end Report
end ByteMachine
