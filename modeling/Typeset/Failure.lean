import Typeset.Feedback.Feed
import Typeset.Text.Digit
import Typeset.Workspace.Basic

/-!
Why a run fails.  A failure tells what was attempted; most have a cause below that.
-/

namespace Typeset

inductive Cause where
  | file (fault : FileFault)
  | malformedJson
  | noProgram
  | number (fault : Text.NumberFault)
  | feed (fault : FeedFault)
deriving DecidableEq, Repr

def Cause.message : Cause → Text
  | .file fault => fault.message
  | .malformedJson => "malformed JSON"
  | .noProgram => "cannot find binary path"
  | .number fault => fault.message
  | .feed fault => fault.message

inductive Failure where
  | unreadable (path : Path) (fault : FileFault)
  | unwritable (fault : FileFault)
  | invalidSettings (path : Path)
  | unbalancedFlags (value : Text)
  | invalidWarnLevel (value : Text) (fault : Text.NumberFault)
  | noFileName (path : Path)
  | noEngine (engine : Text)
  | notStarted (engine : Text) (fault : FileFault)
  /-- Reported by whoever runs the engine or takes its lines. -/
  | reported (message : Text)
  /-- A line of saved output has no feedback; lines are counted from one. -/
  | uninterpretable (path : Path) (line : Nat) (fault : FeedFault)
  | emptyOutput (path : Path)
deriving DecidableEq, Repr

namespace Failure

def message : Failure → Text
  | unreadable path _ => "Failed to read " ++ path
  | unwritable fault => fault.message
  | invalidSettings path => "Invalid build configuration in " ++ path
  | unbalancedFlags value => "TEXFEED_FLAGS has unbalanced quotes: " ++ Text.quoted value
  | invalidWarnLevel value _ =>
      "TEXFEED_WARN_LEVEL must be a small integer, got " ++ Text.quoted value
  | noFileName path => path ++ " does not name a file".toList
  | noEngine engine => "`" ++ engine ++ "` was not found on PATH"
  | notStarted engine _ => "Failed to spawn " ++ engine
  | reported message => message
  | uninterpretable path line _ =>
      path ++ ':' :: Text.ofNat line ++ ": cannot interpret output".toList
  | emptyOutput path => path ++ " is empty".toList

def cause? : Failure → Option Cause
  | unreadable _ fault => some (.file fault)
  | invalidSettings _ => some .malformedJson
  | invalidWarnLevel _ fault => some (.number fault)
  | noEngine _ => some .noProgram
  | notStarted _ fault => some (.file fault)
  | uninterpretable _ _ fault => some (.feed fault)
  | _ => none

end Failure

end Typeset
