import Typeset.Command.Request
import Typeset.Failure
import Typeset.Feedback.Record
import Typeset.Text.Lines

/-!
Feedback on output that was saved.  The first line that is not blank is the engine's banner, and the
first line without feedback ends the replay.
-/

namespace Typeset

structure Replay where
  feed : Feed
  bannerSeen : Bool := false
deriving DecidableEq, Repr

structure ReplayResult where
  shown : List (Text × Feedback)
  summary : Summary
  fault? : Option FeedFault
deriving DecidableEq, Repr

namespace Replay

def start (options : FeedOptions) : Replay where
  feed := .start options

def isBanner (replay : Replay) (line : Text) : Bool :=
  !replay.bannerSeen && Text.trim line ≠ []

def step (replay : Replay) (line : Text) : Replay × Except FeedFault Feedback :=
  let kind := if replay.isBanner line then LineKind.banner else .output
  let (feed, result) := replay.feed.step line kind
  ({ feed, bannerSeen := replay.bannerSeen || replay.isBanner line }, result)

def run (replay : Replay) : List Text → ReplayResult
  | [] => { shown := [], summary := replay.feed.summary, fault? := none }
  | line :: lines =>
      match replay.step line with
      | (next, .ok feedback) =>
          let result := next.run lines
          { result with shown := (line, feedback) :: result.shown }
      | (next, .error fault) =>
          { shown := [], summary := next.feed.summary, fault? := some fault }

end Replay

namespace ReplayResult

def markupLines (result : ReplayResult) : List Text :=
  result.shown.filterMap fun (line, feedback) =>
    match feedback.rendering with
    | .empty => none
    | rendering => some (rendering.text line)

def diagnostics (result : ReplayResult) : List Diagnostic :=
  result.shown.filterMap fun (_, feedback) => feedback.diagnostic?

def recordLines (result : ReplayResult) : List Text :=
  result.diagnostics.map Diagnostic.write ++
    match result.fault? with
    | none => [result.summary.write]
    | some _ => []

def failure? (result : ReplayResult) (file : Path) : Option Failure :=
  match result.fault? with
  | some fault => some (.uninterpretable file (result.shown.length + 1) fault)
  | none => if result.summary.tally.lines = 0 then some (.emptyOutput file) else none

end ReplayResult

namespace ReplayRequest

/-- How saved output is taken.  Without other orders messages are about the document of the same
name, and paths are seen from the directory of the file. -/
def feedOptions (request : ReplayRequest) (file : Path) : FeedOptions where
  defaultFile? := some (request.defaultFile?.getD (Path.withExtension "tex" file))
  baseDir? := some (request.baseDir?.getD (Path.directory file))
  rule := request.rule?.getD .fragment
  policy := if request.strict then .strict else .lenient

def replay (request : ReplayRequest) (file : Path) (content : Bytes) : ReplayResult :=
  (Replay.start (request.feedOptions file)).run (Text.lines (Text.decodeLossy content))

end ReplayRequest

end Typeset
