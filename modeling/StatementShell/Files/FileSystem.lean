import StatementShell.Files.Path
import StatementShell.Text.Quoted
import StatementShell.Text.Utf8
/-!
# The file system

The files and folders that the shell can see, and the folder that it works in. The folders on the
way to a file are there without being listed. A path is followed name by name, and each step leads
through a folder that is there. Permissions and devices are left out: every folder may be searched,
every file may be read and written, and there is nothing but files and folders.
-/

namespace StatementShell

/-- A place in a file system: the names on the way from the root. -/
abbrev Place := List Text

inductive Entry where
  | file (bytes : List UInt8)
  | folder
deriving DecidableEq, Repr

inductive PathFault where
  | missing
  | notFolder
  | isFolder
  | tooLong
deriving DecidableEq, Repr

def PathFault.name : PathFault → Text
  | .missing => "[Errno 2] No such file or directory"
  | .notFolder => "[Errno 20] Not a directory"
  | .isFolder => "[Errno 21] Is a directory"
  | .tooLong => "[Errno 36] File name too long"

def PathFault.message (fault : PathFault) (path : Text) : Text :=
  fault.name ++ ": " ++ Quoted.quote path

structure FileSystem where
  workingFolder : Place := []
  entries : List (Place × Entry) := []
deriving DecidableEq, Repr

namespace FileSystem

def nameLimit : Nat := 255

def pathLimit : Nat := 4095

def entryAt? (s : FileSystem) (place : Place) : Option Entry :=
  match s.entries.lookup place with
  | some entry => some entry
  | none =>
    if place.isPrefixOf s.workingFolder || s.entries.any (place.isPrefixOf ·.1) then some .folder
    else none

/-- Follows names from a place. A name of nothing and a single dot stay at the place, but it has to
be a folder for them too; above the root there is the root. -/
def walk (s : FileSystem) (place : Place) : List Text → Except PathFault Place
  | [] => .ok place
  | name :: names =>
    match s.entryAt? place with
    | none => .error .missing
    | some (.file _) => .error .notFolder
    | some .folder =>
      if name = [] ∨ name = ['.'] then s.walk place names
      else if name = Path.above then s.walk place.dropLast names
      else if nameLimit < Utf8.size name then .error .tooLong
      else s.walk (place ++ [name]) names

/-- The place that a path leads to, where something may or may not stand. No path holds a null
character, and one that is too long is refused before anything is looked up. -/
def resolve (s : FileSystem) (path : Text) : Except PathFault Place :=
  if path.contains '\x00' then .error .missing
  else if pathLimit < Utf8.size path then .error .tooLong
  else s.walk (if path.head? = some '/' then [] else s.workingFolder) (path.splitAt '/')

def read (s : FileSystem) (path : Text) : Except PathFault (List UInt8) :=
  match s.resolve path with
  | .error fault => .error fault
  | .ok place =>
    match s.entryAt? place with
    | none => .error .missing
    | some .folder => .error .isFolder
    | some (.file bytes) => .ok bytes

def insert (s : FileSystem) (place : Place) (bytes : List UInt8) : FileSystem :=
  { s with entries := (place, .file bytes) :: s.entries }

/-- Puts something where a path leads, and makes every folder that the path passes through, also one
that it leaves again. What is put later counts. -/
def put (s : FileSystem) (path : Path) (entry : Entry) : FileSystem :=
  let place (names : List Text) : Place :=
    ({ path with names } : Path).absolute s.workingFolder |>.names
  let folders := (List.range path.names.length).map fun n =>
    (place (path.names.take n), Entry.folder)
  { s with entries := (place path.names, entry) :: folders ++ s.entries }

def touch (s : FileSystem) (path : Text) : Except PathFault FileSystem :=
  match s.resolve path with
  | .error fault => .error fault
  | .ok place =>
    match s.entryAt? place with
    | none => .ok (s.insert place [])
    | some .folder => .error .isFolder
    | some (.file _) => .ok s

end FileSystem

end StatementShell
