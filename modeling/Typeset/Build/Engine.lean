import Typeset.Failure
import Typeset.Journal

namespace Typeset.Engine

/-- The engine that a document asks for.  System fonts need the newer one. -/
def detect (document : Text) : Text :=
  if Text.contains "fontspec" document then "xelatex" else "pdflatex"

def choose (workspace : Workspace) (configured? : Option Text) (document : Path) :
    Except Failure Text :=
  match configured? with
  | some engine => .ok engine
  | none =>
      match workspace.read document with
      | .ok content => .ok (detect (Text.decodeLossy content))
      | .error fault => .error (.unreadable document fault)

def chooseJournal (workspace : Workspace) (configured? : Option Text) (document : Path) :
    Journal :=
  match configured?, choose workspace configured? document with
  | none, .ok engine =>
      [{ level := .debug, text := "detected engine " ++ engine ++ " for ".toList ++ document }]
  | _, _ => []

end Typeset.Engine
