import ByteMachine.Log.Message

/-!
# Loggers

The command logs records: the messages of the machine, and what it has to complain of itself. Which of them are seen,
and how they are worded on standard error, is up to a logger, which is set up with the level from which on records are
written. A logger is a parameter of the command. All that the command relies on is that the logger can be set up, writes
nothing for a record below the level, and a line for each other one (`Logger.Lawful`).
-/

namespace ByteMachine

inductive Record where
  /-- A message of the machine or of the loader. -/
  | logged (message : Message)
  /-- What the command itself complains of. -/
  | complaint (text : String)
deriving DecidableEq

namespace Record

def level : Record → Level
  | logged message => message.severity
  | complaint _ => .error

/-- The part of the program that logs the record. -/
def target : Record → String
  | logged (.skipped ..) => "ls8emu::loader"
  | logged _ => "ls8emu::cpu"
  | complaint _ => "ls8::run"

def text : Record → String
  | logged message => message.text
  | complaint text => text

end Record

structure Logger where
  /-- Why the logger cannot be set up, if it cannot. -/
  refusal : Option String
  /-- What a logger that was set up with this level writes for a record. -/
  write : Level → Record → String

namespace Logger

/-- What is written when the logger is set up. -/
def opening (logger : Logger) : String :=
  match logger.refusal with
  | none => ""
  | some reason => "unable to initialize logging: " ++ reason ++ "\n"

/-- What is written for a log. A logger that could not be set up gets none of it. -/
def written (logger : Logger) (level : Level) (log : List Record) : String :=
  if logger.refusal = none then String.join (log.map (logger.write level)) else ""

/-- What the command relies on. -/
structure Lawful (logger : Logger) : Prop where
  ready : logger.refusal = none
  below : ∀ level record, record.level < level → logger.write level record = ""
  line : ∀ level record, level ≤ record.level → ∃ line, line ≠ "" ∧ logger.write level record = line ++ "\n"

variable {logger : Logger} {level : Level} {record : Record}

theorem Lawful.opening_eq_empty (h : logger.Lawful) : logger.opening = "" := by
  rw [opening, h.ready]

/-- Records below the level might as well not have been logged. -/
theorem Lawful.written_eq (h : logger.Lawful) (level : Level) (log : List Record) :
    logger.written level log = String.join ((log.filter (level ≤ ·.level)).map (logger.write level)) := by
  rw [written, if_pos h.ready]
  induction log with
  | nil => rfl
  | cons record log ih =>
    rw [List.map_cons, String.join_cons, ih, List.filter_cons]
    split
    · rw [List.map_cons, String.join_cons]
    · rename_i hlevel
      have hbelow : record.level < level := Level.not_le.1 (by simpa using hlevel)
      rw [h.below level record hbelow, String.empty_append]

/-- The other ones are seen. -/
theorem Lawful.write_ne_empty (h : logger.Lawful) (hrecord : level ≤ record.level) :
    logger.write level record ≠ "" := by
  obtain ⟨line, hline, hwrite⟩ := h.line level record hrecord
  rw [hwrite]
  intro hempty
  exact hline (String.append_eq_empty_iff.1 hempty).1

end Logger
end ByteMachine
