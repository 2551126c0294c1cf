import Typeset.Build.Artifact
import Typeset.Build.Plan

/-!
A run of the engine with feedback on its lines.  The first line of standard output that is not blank
is the engine's banner.  At the first line without feedback the session gives up: that line and all
later ones are shown as they are.
-/

namespace Typeset

structure Emission where
  raw : Text
  rendering : Rendering
deriving DecidableEq, Repr

structure Session where
  feed : Feed
  bannerSeen : Bool := false
  fault? : Option FeedFault := none
deriving DecidableEq, Repr

namespace Session

def start (options : FeedOptions) : Session where
  feed := .start options

def isBanner (session : Session) (line : OutputLine) : Bool :=
  line.stream = .stdout && !session.bannerSeen && Text.trim line.text ≠ []

def kindOf (session : Session) (line : OutputLine) : LineKind :=
  if session.isBanner line then .banner else .output

def receive (session : Session) (line : OutputLine) : Session × Emission :=
  let bannerSeen := session.bannerSeen || session.isBanner line
  match session.fault? with
  | some _ => ({ session with bannerSeen }, { raw := line.text, rendering := .verbatim })
  | none =>
      match session.feed.step line.text (session.kindOf line) with
      | (feed, .ok feedback) =>
          ({ session with feed, bannerSeen },
            { raw := line.text, rendering := feedback.rendering })
      | (feed, .error fault) =>
          ({ feed, bannerSeen, fault? := some fault },
            { raw := line.text, rendering := .verbatim })

def receiveAll (session : Session) : List OutputLine → Session × List Emission
  | [] => (session, [])
  | line :: lines =>
      let (next, emission) := session.receive line
      let (last, emissions) := next.receiveAll lines
      (last, emission :: emissions)

def faultNote (fault : FeedFault) : Note where
  level := .error
  text := "Build feedback disabled for the rest of the run: " ++ fault.message

def journal (session : Session) (line : OutputLine) : Journal :=
  match session.fault? with
  | some _ => []
  | none =>
      session.feed.journal line.text (session.kindOf line) ++
        match (session.feed.step line.text (session.kindOf line)).2 with
        | .ok _ => []
        | .error fault => [faultNote fault]

def journalAll (session : Session) : List OutputLine → Journal
  | [] => []
  | line :: lines => session.journal line ++ (session.receive line).1.journalAll lines

end Session

inductive Disposition where
  | dismissed
  | shown
deriving DecidableEq, Repr

/-- A run needs none if it succeeded and nothing was more severe than the level. -/
def Disposition.of (success : Bool) (highest : Severity) (warnLevel : UInt8) : Disposition :=
  if success && highest.level ≤ warnLevel.toNat then .dismissed else .shown

structure Outcome where
  success : Bool
  summary : Summary
  pdf? : Option Artifact
  pdfUpdated : Bool
  degraded? : Option FeedFault
deriving DecidableEq, Repr

def Outcome.disposition (outcome : Outcome) (warnLevel : UInt8) : Disposition :=
  .of outcome.success outcome.summary.highest warnLevel

structure Build where
  emitted : List Emission
  outcome : Except Failure Outcome

namespace Plan

def outcomeOf (plan : Plan) (before after : Workspace) (session : Session) (success : Bool) :
    Outcome :=
  let pdf? := Artifact.at? after plan.pdf
  { success
    summary := session.feed.summary
    pdf?
    pdfUpdated := pdf?.any fun pdf => pdf.changedSince (Artifact.at? before plan.pdf)
    degraded? := session.fault? }

def carryOut (plan : Plan) (settings : Settings) (before : Workspace) (delivery : Delivery) :
    Build :=
  let (session, emitted) :=
    (Session.start (plan.feedOptions settings)).receiveAll delivery.lines
  { emitted
    outcome := delivery.ending.map (plan.outcomeOf before delivery.workspace session) }

def startNote (plan : Plan) : Note where
  level := .info
  text := "Typesetting " ++ plan.document ++ " with ".toList ++ plan.invocation.engine

def endNote (success : Bool) (summary : Summary) : Note where
  level := .info
  text := "Build finished: success=" ++ (if success then "true" else "false").toList ++
    " highest=".toList ++ summary.highest.title ++ " diagnostics=".toList ++
    Text.ofNat summary.tally.diagnostics

def carryOutJournal (plan : Plan) (settings : Settings) (before : Workspace)
    (delivery : Delivery) : Journal :=
  let between := (Session.start (plan.feedOptions settings)).journalAll delivery.lines
  plan.startNote :: delivery.journal true between ++
    match (plan.carryOut settings before delivery).outcome with
    | .ok outcome => [endNote outcome.success outcome.summary]
    | .error _ => []

end Plan

end Typeset
