import ByteMachine.CommandLine.Report

/-!
# The command

Runs the program image in a file. Output appears as soon as a cycle writes it, also for a program that never ends.
-/

namespace ByteMachine

/-- Why the system did not give the content of a file. -/
def LoadFault.ofSystem (path : String) : IO.Error → LoadFault
  | .noFileOrDirectory .. => .missing path
  | .permissionDenied _ number wording | .inappropriateType _ number wording | .invalidArgument _ number wording
  | .resourceExhausted _ number wording | .noSuchThing _ number wording | .otherError number wording
  | .hardwareFault number wording | .interrupted _ number wording =>
    .unreadable (.system wording number.toNat)
  | error => .unreadable (.system (toString error) 0)

def readFile (path : String) : IO (Except LoadFault (List Byte)) := do
  try return .ok (← IO.FS.withFile path .read (·.readBinToEnd)).toList
  catch error => return .error (.ofSystem path error)

/-- Prints texts on standard output and on standard error at once. -/
def printNow (stdout stderr : String) : IO Unit := do
  unless stdout.isEmpty do
    IO.print stdout
    (← IO.getStdout).flush
  unless stderr.isEmpty do IO.eprint stderr

/-- Shows what has happened since the last account. -/
def Account.print (account : Account) (logger : Logger) : IO Unit :=
  printNow account.text (logger.written Report.logLevel account.log)

/-- Runs cycle by cycle and shows what each one does, and last why the run has ended. -/
partial def Machine.runAloud (m : Machine) (logger : Logger) : IO Unit := do
  let turn := m.turn
  (Account.ofMessages turn.text turn.log).print logger
  match turn.next with
  | .inl m => m.runAloud logger
  | .inr result => (Account.ofResult result).print logger

/-- The whole command. -/
def command (parser : ArgumentParser) (logger : Logger) (args : List String) : IO UInt32 := do
  printNow "" logger.opening
  match parser args with
  | .leave code stdout stderr =>
    printNow stdout stderr
    return code.toUInt32
  | .run path =>
    let (account, machine?) := Account.prepare path (← readFile path)
    account.print logger
    if let some machine := machine? then machine.runAloud logger
    return 0

end ByteMachine

def main (args : List String) : IO UInt32 := ByteMachine.command .plain .plain args
