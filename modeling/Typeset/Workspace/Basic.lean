import Typeset.Path.Basic
import Typeset.Text.Utf8

/-!
The files that a run can see.  A place is given by its names from the root down; a path is followed
to its place name by name, and each name before the last must be that of a directory.
-/

namespace Typeset

inductive FileFault where
  | notFound
  | isADirectory
  | notADirectory
  | invalidData
  | invalidInput
  | nameTooLong
deriving DecidableEq, Repr

def FileFault.message : FileFault → Text
  | .notFound => "no such file or directory"
  | .isADirectory => "is a directory"
  | .notADirectory => "not a directory"
  | .invalidData => "stream did not contain valid UTF-8"
  | .invalidInput => "file name contained an unexpected NUL byte"
  | .nameTooLong => "file name too long"

inductive Entry where
  | file (content : Bytes)
  | directory
deriving DecidableEq, Repr

structure Workspace where
  /-- The directory that relative paths are seen from. -/
  home : List Text
  /-- The entries besides the root and the directories down to the home. -/
  entries : List (List Text × Entry) := []
deriving DecidableEq, Repr

inductive FileChange where
  | write (path : Path) (content : Bytes)
  | remove (path : Path)
deriving DecidableEq, Repr

namespace Workspace

def entry? (workspace : Workspace) (place : List Text) : Option Entry :=
  if place.isPrefixOf workspace.home then some .directory
  else workspace.entries.lookup place

def longestName : Nat := 255

def longestPath : Nat := 4095

def isTooLong (name : Text) : Bool :=
  longestName < Text.byteLength name

def follow (workspace : Workspace) (place : List Text) :
    List Text → Except FileFault (List Text)
  | [] => .ok place
  | name :: names =>
      match workspace.entry? place with
      | none => .error .notFound
      | some (.file _) => .error .notADirectory
      | some .directory =>
          if Path.isIdle name then workspace.follow place names
          else if name = Path.up then workspace.follow place.dropLast names
          else if isTooLong name then .error .nameTooLong
          else workspace.follow (place ++ [name]) names

def startOf (workspace : Workspace) (path : Path) : List Text :=
  if Path.isAbsolute path then [] else workspace.home

def check (path : Path) : Except FileFault Unit :=
  if '\x00' ∈ path then .error .invalidInput
  else if path = [] then .error .notFound
  else if longestPath < Text.byteLength path then .error .nameTooLong
  else .ok ()

/-- The place of a path.  A slash at its end stands behind a directory only. -/
def locate (workspace : Workspace) (path : Path) : Except FileFault (List Text) := do
  check path
  workspace.follow (workspace.startOf path) (Text.splitOn '/' path)

/-- The directory that a path leads to before its last name, and that name.  The root, `.` and `..`
are no entries of a directory. -/
def locateEntry (workspace : Workspace) (path : Path) : Except FileFault (List Text × Text) := do
  check path
  match (Text.dropEndWhile List.isEmpty (Text.splitOn '/' path)).reverse with
  | [] => .error .isADirectory
  | name :: outer => do
      let directory ← workspace.follow (workspace.startOf path) (outer.reverse ++ [[]])
      if Path.isIdle name || name = Path.up then .error .isADirectory
      else .ok (directory, name)

def read (workspace : Workspace) (path : Path) : Except FileFault Bytes := do
  match workspace.entry? (← workspace.locate path) with
  | some (.file content) => .ok content
  | some .directory => .error .isADirectory
  | none => .error .notFound

def readText (workspace : Workspace) (path : Path) : Except FileFault Text := do
  match Text.decode? (← workspace.read path) with
  | some text => .ok text
  | none => .error .invalidData

def isFile (workspace : Workspace) (path : Path) : Bool :=
  match workspace.read path with
  | .ok _ => true
  | .error _ => false

def enter (workspace : Workspace) (path : Path) : Except FileFault (List Text) := do
  let place ← workspace.locate path
  workspace.follow place [[]]

def put (workspace : Workspace) (place : List Text) (entry : Entry) : Workspace where
  home := workspace.home
  entries := (place, entry) :: workspace.entries.filter fun (other, _) => other ≠ place

/-- Writes a file.  Its directory must exist, and what ends in a slash is no file. -/
def write (workspace : Workspace) (path : Path) (content : Bytes) :
    Except FileFault Workspace := do
  let (directory, name) ← workspace.locateEntry path
  if path.getLast? = some '/' then .error .isADirectory
  else if isTooLong name then .error .nameTooLong
  else
    match workspace.entry? (directory ++ [name]) with
    | some .directory => .error .isADirectory
    | _ => .ok (workspace.put (directory ++ [name]) (.file content))

def drop (workspace : Workspace) (place : List Text) : Workspace where
  home := workspace.home
  entries := workspace.entries.filter fun (other, _) => other ≠ place

def remove (workspace : Workspace) (path : Path) : Except FileFault Workspace := do
  let (directory, name) ← workspace.locateEntry path
  if isTooLong name then .error .nameTooLong
  else
    match workspace.entry? (directory ++ [name]) with
    | none => .error .notFound
    | some .directory => .error .isADirectory
    | some (.file _) =>
        if path.getLast? = some '/' then .error .notADirectory
        else .ok (workspace.drop (directory ++ [name]))

def changeAll (workspace : Workspace) (changes : List FileChange) : Except FileFault Workspace :=
  changes.foldlM
    (fun workspace change =>
      match change with
      | .write path content => workspace.write path content
      | .remove path => workspace.remove path)
    workspace

def makeDirectories (workspace : Workspace) (place : List Text) :
    List Text → Workspace × List Text
  | [] => (workspace, place)
  | name :: names =>
      if name = Path.up then workspace.makeDirectories place.dropLast names
      else
        match workspace.entry? (place ++ [name]) with
        | some _ => workspace.makeDirectories (place ++ [name]) names
        | none =>
            (workspace.put (place ++ [name]) .directory).makeDirectories (place ++ [name]) names

def withDirectory (workspace : Workspace) (path : Path) : Workspace :=
  (workspace.makeDirectories (workspace.startOf path) (Path.names path)).1

/-- Puts a file in place together with the directories that its path leads through. -/
def withFile (workspace : Workspace) (path : Path) (content : Bytes) : Workspace :=
  let names := Path.names path
  match names.getLast? with
  | none => workspace
  | some name =>
      let (workspace, place) :=
        workspace.makeDirectories (workspace.startOf path) names.dropLast
      workspace.put (place ++ [name]) (.file content)

end Workspace

end Typeset
