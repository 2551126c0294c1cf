import Typeset.Build.Delivery
import Typeset.Build.Engine
import Typeset.Settings.Basic

/-!
What is to be set, how the engine is called for it, and where its PDF will be.
-/

namespace Typeset

structure Plan where
  document : Path
  pdf : Path
  invocation : Invocation
deriving DecidableEq, Repr

namespace Plan

/-- The document to set for the file being edited.  A relative master is seen from the directory of
that file. -/
def documentFor (settings : Settings) (current : Path) : Path :=
  match settings.master? with
  | some master => Path.join (Path.directory current) master
  | none => current

def make (workspace : Workspace) (settings : Settings) (current : Path) :
    Except Failure Plan :=
  let document := documentFor settings current
  match Path.fileName? document with
  | none => .error (.noFileName document)
  | some name => do
      let engine ← Engine.choose workspace settings.engine? document
      .ok
        { document
          pdf := Path.withExtension "pdf" document
          invocation :=
            { engine, args := settings.flags ++ [name], workingDir := Path.directory document } }

def makeJournal (workspace : Workspace) (settings : Settings) (current : Path) : Journal :=
  let document := documentFor settings current
  match Path.fileName? document with
  | none => []
  | some _ => Engine.chooseJournal workspace settings.engine? document

def feedOptions (plan : Plan) (settings : Settings) : FeedOptions where
  defaultFile? := some plan.document
  baseDir? := some plan.invocation.workingDir
  rule := settings.rule
  policy := settings.policy
  linkTemplate? := settings.linkTemplate?
  raw := settings.debug

end Plan

end Typeset
