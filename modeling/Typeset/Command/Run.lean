import Typeset.Build.Session
import Typeset.Command.Replay
import Typeset.Settings.Layers

namespace Typeset

/-- How a command ends if its standard output takes whatever is printed.  A line that cannot be
written, for which a build fails once the engine is done and a replay at once, is left out. -/
structure Report where
  stdout : Text := []
  failure? : Option Failure := none
  status : Nat := 0
  journal : Journal := []
deriving DecidableEq, Repr

inductive CommandResult where
  | refused (refusal : Refusal)
  | done (report : Report)
deriving DecidableEq, Repr

structure CommandContext where
  workspace : Workspace
  environment : Environment
  programs : SearchPath

namespace Report

def printLines (lines : List Text) : Text :=
  lines.flatMap fun line => line ++ ['\n']

def failed (failure : Failure) (stdout : Text) (journal : Journal) : Report where
  stdout := stdout
  failure? := some failure
  status := 1
  journal := journal

end Report

namespace BuildRequest

def override (request : BuildRequest) (settings : Settings) : Settings where
  engine? := request.engine?.or settings.engine?
  flags := if request.flags = [] then settings.flags else request.flags
  warnLevel := request.warnLevel?.getD settings.warnLevel
  master? := request.master?.or settings.master?
  debug := settings.debug || request.debug
  rule := request.rule?.getD settings.rule
  policy := if request.strict then .strict else settings.policy
  linkTemplate? := request.link?.or settings.linkTemplate?

def printed (emitted : List Emission) : List Text :=
  emitted.filterMap fun emission =>
    match emission.rendering with
    | .empty => none
    | rendering => some (rendering.text emission.raw)

/-- The exit status: 1 if the engine failed, 2 if the run needs attention. -/
def statusOf (outcome : Outcome) (warnLevel : UInt8) : Nat :=
  if outcome.success then
    match outcome.disposition warnLevel with
    | .shown => 2
    | .dismissed => 0
  else 1

def outcomeJournal (outcome : Outcome) : Journal :=
  (outcome.degraded?.map fun fault =>
      { level := .warn, text := "Feedback fell back to raw output: " ++ fault.message }).toList ++
    (outcome.pdf?.map fun pdf =>
      { level := .info
        text := "PDF " ++ pdf.path ++ " (updated: ".toList ++
          (if outcome.pdfUpdated then "true" else "false").toList ++ [')'] }).toList

def absoluteFile (context : CommandContext) (file : Path) : Path :=
  Path.absolute (Path.ofNames true context.workspace.home) file

def carryOut (context : CommandContext) (settings : Settings) (plan : Plan) (noted : Journal) :
    Report :=
  let delivery := plan.invocation.deliver context.programs context.workspace
  let build := plan.carryOut settings context.workspace delivery
  let stdout := Report.printLines (printed build.emitted)
  let journal := noted ++ plan.carryOutJournal settings context.workspace delivery
  match build.outcome with
  | .error failure => .failed failure stdout journal
  | .ok outcome =>
      { stdout
        status := statusOf outcome settings.warnLevel
        journal := journal ++ outcomeJournal outcome }

def run (request : BuildRequest) (context : CommandContext) (file : Path) : Report :=
  let path := absoluteFile context file
  let found := Settings.discoverJournal context.workspace path
  match Settings.resolve context.workspace context.environment path with
  | .error failure => .failed failure [] found
  | .ok settings =>
      let settings := request.override settings
      let noted := found ++ Plan.makeJournal context.workspace settings path
      match Plan.make context.workspace settings path with
      | .error failure => .failed failure [] noted
      | .ok plan => carryOut context settings plan noted

end BuildRequest

namespace ReplayRequest

def faultJournal (summary : Summary) : Journal :=
  if summary.tally.faults = 0 then []
  else
    [{ level := .warn
       text := Text.ofNat summary.tally.faults ++ " malformed file token(s) ignored".toList }]

def run (request : ReplayRequest) (context : CommandContext) (file : Path) : Report :=
  match context.workspace.read file with
  | .error fault => .failed (.unreadable file fault) [] []
  | .ok content =>
      let result := request.replay file content
      let stdout := Report.printLines (if request.json then result.recordLines else result.markupLines)
      let journal := if result.fault?.isSome then [] else faultJournal result.summary
      match result.failure? file with
      | some failure => .failed failure stdout journal
      | none => { stdout, journal }

end ReplayRequest

namespace Request

def run (context : CommandContext) : Request → Report
  | build file request => request.run context file
  | replay file request => request.run context file

def runArguments (context : CommandContext) (arguments : List Text) : CommandResult :=
  match ofArguments arguments with
  | .error refusal => .refused refusal
  | .ok request => .done (request.run context)

end Request

def Refusal.status : Refusal → Nat
  | .helpAsked => 0
  | .nothingGiven => 2
  | .invalid => 2

end Typeset
