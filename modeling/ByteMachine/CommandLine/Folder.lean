import ByteMachine.Byte
import ByteMachine.LoadFault

/-!
# Folders

A folder is given by the files and folders in it, each under its path from there. A path is followed name by name:
only a folder has names in it, `.` is the folder itself and `..` the one that it is in. What lies outside is not
known, so no name is found there.
-/

namespace ByteMachine

inductive Entry where
  | file (content : List Byte)
  | folder
deriving DecidableEq

/-- The entries of a folder by their paths, the last added first. -/
structure Folder where
  entries : List (List String × Entry) := []

/-- Where a path has led so far. -/
inductive Place where
  /-- The entry under this path, the innermost name first. -/
  | inside (names : List String)
  | outside
deriving DecidableEq

namespace Folder

/-- The names between the slashes of a path. -/
def names (path : String) : List String := (path.toList.splitOn '/').map String.ofList

/-- A name that stays in the same folder. -/
def isHere (name : String) : Bool := name = "" || name = "."

/-- Puts an entry under a path; the folders on the way to it are there with it. -/
def insert (f : Folder) (path : String) (entry : Entry) : Folder :=
  ⟨(((names path).filter (! isHere ·)).reverse, entry) :: f.entries⟩

/-- The entry under a path that starts with its innermost name. -/
def find? (f : Folder) (names : List String) : Option Entry :=
  match f.entries.find? (·.1 = names) with
  | some (_, entry) => some entry
  | none => if names = [] || f.entries.any (names.isSuffixOf ·.1) then some .folder else none

/-- The entry at a place. -/
def at? (f : Folder) : Place → Option Entry
  | .inside names => f.find? names
  | .outside => some .folder

/-- The most bytes that a name can have. -/
def maxName : Nat := 255

/-- The most bytes that a path can have. -/
def maxPath : Nat := 4095

/-- Follows one name; `path` is the whole path, for the report that it leads nowhere. -/
def follow (f : Folder) (path : String) (place : Place) (name : String) : Except LoadFault Place :=
  match f.at? place with
  | none => .error (.missing path)
  | some (.file _) => .error (.unreadable .notFolder)
  | some .folder =>
    if isHere name then .ok place
    else if name = ".." then
      match place with
      | .inside (_ :: names) => .ok (.inside names)
      | _ => .ok .outside
    else if maxName < name.utf8ByteSize then .error (.unreadable .nameTooLong)
    else
      match place with
      | .outside => .error (.missing path)
      | .inside names =>
        if (f.find? (name :: names)).isSome then .ok (.inside (name :: names)) else .error (.missing path)

/-- The place that a path starts from. -/
def startOf (path : String) : Place := if path.startsWith "/" then .outside else .inside []

/-- The content of the file that a path leads to. -/
def read (f : Folder) (path : String) : Except LoadFault (List Byte) := do
  if path.toList.contains '\x00' then throw (.unreadable .nulInPath)
  if maxPath < path.utf8ByteSize then throw (.unreadable .nameTooLong)
  if path = "" then throw (.missing path)
  let place ← (names path).foldlM (f.follow path) (startOf path)
  match f.at? place with
  | none => throw (.missing path)
  | some .folder => throw (.unreadable .isFolder)
  | some (.file content) => return content

end Folder
end ByteMachine
