import Typeset.Journal
import Typeset.Settings.Environment
import Typeset.Settings.Record

/-!
Where settings come from: the file next to the document, and over it the environment.
-/

namespace Typeset.Settings

def fileName : Text := "texfeed.json"

def load (workspace : Workspace) (path : Path) : Except Failure Settings :=
  match workspace.readText path with
  | .error fault => .error (.unreadable path fault)
  | .ok text =>
      match read? text with
      | some settings => .ok settings
      | none => .error (.invalidSettings path)

def save (workspace : Workspace) (settings : Settings) (path : Path) : Except Failure Workspace :=
  match workspace.write path (Text.encode settings.write) with
  | .ok next => .ok next
  | .error fault => .error (.unwritable fault)

def fileFor (document : Path) : Path :=
  Path.join ((Path.parent? document).getD ['.']) fileName

def discover (workspace : Workspace) (document : Path) : Except Failure Settings :=
  if workspace.isFile (fileFor document) then load workspace (fileFor document) else .ok {}

def discoverJournal (workspace : Workspace) (document : Path) : Journal :=
  if workspace.isFile (fileFor document) then
    [{ level := .info, text := "Using build configuration " ++ fileFor document }]
  else []

def resolve (workspace : Workspace) (environment : Environment) (document : Path) :
    Except Failure Settings := do
  let settings ← discover workspace document
  match settings.applyAll environment with
  | (settings, none) => .ok settings
  | (_, some failure) => .error failure

end Typeset.Settings
