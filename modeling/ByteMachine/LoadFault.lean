/-!
# Why a program is not loaded

A file may be missing, its content may be unreadable, or the program may be longer than memory. The wording of each
cause is given once, by `ReadFault.message` and `LoadFault.message`.
-/

namespace ByteMachine

/-- Why a file that is not missing has no readable content. -/
inductive ReadFault where
  /-- Some line is not text. -/
  | notText
  /-- The path holds the NUL character, which no path can hold. -/
  | nulInPath
  /-- The system refused, with its own wording and number. -/
  | system (wording : String) (number : Nat)
deriving DecidableEq, Repr

namespace ReadFault

def notFolder : ReadFault := .system "Not a directory" 20

def isFolder : ReadFault := .system "Is a directory" 21

def nameTooLong : ReadFault := .system "File name too long" 36

def message : ReadFault → String
  | notText => "stream did not contain valid UTF-8"
  | nulInPath => "file name contained an unexpected NUL byte"
  | system wording number => wording ++ " (os error " ++ Nat.repr number ++ ")"

end ReadFault

inductive LoadFault where
  /-- There is no file at `path`. -/
  | missing (path : String)
  | unreadable (fault : ReadFault)
  /-- The program has `size` bytes, more than memory. -/
  | tooLarge (size : Nat)
deriving DecidableEq, Repr

def LoadFault.message : LoadFault → String
  | missing path => "file not found: " ++ path
  | unreadable fault => "io error: " ++ fault.message
  | tooLarge size => "program is " ++ Nat.repr size ++ " bytes but memory holds 256"

end ByteMachine
