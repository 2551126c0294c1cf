import Typeset.Feedback.Basic
import Typeset.Message.Listener
import Typeset.Nesting.Basic
import Typeset.Path.Fold

/-!
Feedback line by line.  A line is first followed for the files it opens and closes, then heard for
its message, and a message without a file is attributed to the file being read.  The lines inside an
error block echo source text; their parentheses say nothing about files.
-/

namespace Typeset

/-- What becomes of a line that fits no nesting of files. -/
inductive FaultPolicy where
  | strict
  /-- The fault is noted, and the line is heard all the same. -/
  | lenient
deriving DecidableEq, Repr

namespace FaultPolicy

def all : List FaultPolicy := [strict, lenient]

def name : FaultPolicy → Text
  | strict => "strict"
  | lenient => "lenient"

theorem mem_all (policy : FaultPolicy) : policy ∈ all := by
  cases policy <;> simp [all]

end FaultPolicy

inductive LineKind where
  | output
  | banner
deriving DecidableEq, Repr

structure FeedOptions where
  /-- The file of messages while no file is open. -/
  defaultFile? : Option Path := none
  /-- The directory that paths with a leading dot are seen from. -/
  baseDir? : Option Path := none
  rule : NestingRule := .fragment
  policy : FaultPolicy := .lenient
  linkTemplate? : Option Text := none
  raw : Bool := false
deriving DecidableEq, Repr

inductive FeedFault where
  | nesting (fault : NestingFault)
  | missingFile (message : Text)
deriving DecidableEq, Repr

def FeedFault.message : FeedFault → Text
  | .nesting fault => fault.message
  | .missingFile message => "no current file to attribute `" ++ message ++ "` to"

structure Tally where
  lines : Nat := 0
  diagnostics : Nat := 0
  faults : Nat := 0
deriving DecidableEq, Repr

structure Feed where
  options : FeedOptions
  nesting : Nesting
  listener : Listener := {}
  tally : Tally := {}
deriving DecidableEq, Repr

structure Summary where
  tally : Tally
  highest : Severity
deriving DecidableEq, Repr

namespace Feed

def start (options : FeedOptions) : Feed where
  options := options
  nesting := .start options.rule

def summary (feed : Feed) : Summary where
  tally := feed.tally
  highest := feed.listener.highest

def template (feed : Feed) : Text :=
  feed.options.linkTemplate?.getD Link.defaultTemplate

def countLine (feed : Feed) : Feed :=
  { feed with tally := { feed.tally with lines := feed.tally.lines + 1 } }

def countDiagnostic (feed : Feed) : Feed :=
  { feed with tally := { feed.tally with diagnostics := feed.tally.diagnostics + 1 } }

def countFault (feed : Feed) : Feed :=
  { feed with tally := { feed.tally with faults := feed.tally.faults + 1 } }

def passesOver (feed : Feed) (kind : LineKind) : Bool :=
  feed.options.raw || kind = .banner

def follows (feed : Feed) (line : Text) : Bool :=
  !feed.listener.isInsideError && !Message.isErrorHeader (Text.trim line)

def follow (feed : Feed) (line : Text) : Feed × Option NestingFault :=
  if feed.follows line then
    match feed.nesting.consume line with
    | (nesting, none) => ({ feed with nesting }, none)
    | (nesting, some fault) => ({ feed with nesting }.countFault, some fault)
  else (feed, none)

def report (feed : Feed) (diagnostic : Diagnostic) (file : Path) : Feed × Feedback :=
  let file := Path.resolveFrom feed.options.baseDir? file
  let markup := Rendering.paragraph feed.template file diagnostic.line? diagnostic.message
  (feed.countDiagnostic,
    { rendering := .html markup, diagnostic? := some { diagnostic with file? := some file } })

/-- The feedback on a diagnostic, which is about the file being read if it names none. -/
def assign (feed : Feed) (diagnostic : Diagnostic) : Feed × Except FeedFault Feedback :=
  match diagnostic.file? with
  | some file =>
      let (feed, feedback) := feed.report diagnostic file
      (feed, .ok feedback)
  | none =>
      let (current?, nesting) := feed.nesting.current
      let feed := { feed with nesting }
      match current?.or feed.options.defaultFile? with
      | some file =>
          let (feed, feedback) := feed.report diagnostic file
          (feed, .ok feedback)
      | none => (feed, .error (.missingFile diagnostic.message))

def answer (feed : Feed) (line : Text) : Feed × Except FeedFault Feedback :=
  let (heard, listener) := feed.listener.hear line
  let feed := { feed with listener }
  match heard with
  | .message (.diagnostic diagnostic) => feed.assign diagnostic
  | .message (.headline text) => (feed, .ok { rendering := .html (Rendering.heading text) })
  | .message .separator => (feed, .ok { rendering := .html Rendering.rule })
  | .echoed => (feed, .ok { rendering := .verbatim })
  | .hidden => (feed, .ok { rendering := .empty })

def step (feed : Feed) (line : Text) (kind : LineKind) : Feed × Except FeedFault Feedback :=
  let feed := feed.countLine
  if feed.passesOver kind then (feed, .ok { rendering := .verbatim })
  else
    match feed.follow line, feed.options.policy with
    | (feed, some fault), .strict => (feed, .error (.nesting fault))
    | (feed, _), _ => feed.answer line

def faultNote (line : Text) (fault : NestingFault) : Note where
  level := .warn
  text := "malformed compiler output " ++ Text.quoted line ++ ": " ++ fault.message

def journal (feed : Feed) (line : Text) (kind : LineKind) : Journal :=
  if feed.passesOver kind || !feed.follows line then []
  else
    feed.nesting.journal line ++
      match (feed.nesting.consume line).2, feed.options.policy with
      | some fault, .lenient => [faultNote line fault]
      | _, _ => []

end Feed

end Typeset
