import Typeset.Command.Arguments
import Typeset.Feedback.Feed
import Typeset.Text.Digit

/-!
What the command line can ask for.  Options are given once, but for engine flags; paths are not
empty.
-/

namespace Typeset

structure BuildRequest where
  file? : Option Path := none
  engine? : Option Text := none
  flags : List Text := []
  warnLevel? : Option UInt8 := none
  master? : Option Path := none
  debug : Bool := false
  strict : Bool := false
  rule? : Option NestingRule := none
  link? : Option Text := none
deriving DecidableEq, Repr

structure ReplayRequest where
  file? : Option Path := none
  defaultFile? : Option Text := none
  baseDir? : Option Path := none
  json : Bool := false
  strict : Bool := false
  rule? : Option NestingRule := none
deriving DecidableEq, Repr

inductive Request where
  | build (file : Path) (request : BuildRequest)
  | replay (file : Path) (request : ReplayRequest)
deriving DecidableEq, Repr

namespace Request

def once (given? : Option α) (value : α) : Except Refusal (Option α) :=
  match given? with
  | none => .ok (some value)
  | some _ => .error .invalid

def switchOn (given : Bool) : Except Refusal Bool :=
  if given then .error .invalid else .ok true

def path (text : Text) : Except Refusal Path :=
  if text = [] then .error .invalid else .ok text

def ruleNamed (text : Text) : Except Refusal NestingRule :=
  match NestingRule.all.find? fun rule => rule.name = text with
  | some rule => .ok rule
  | none => .error .invalid

def level (text : Text) : Except Refusal UInt8 :=
  match Text.integer? text with
  | some value =>
      if 0 ≤ value ∧ value < 256 then .ok (UInt8.ofNat value.toNat) else .error .invalid
  | none => .error .invalid

def buildForms : List (Text × OptionForm) :=
  [("engine", .value), ("flag", .anyValue), ("warn-level", .value), ("master", .value),
    ("debug", .switch), ("strict", .switch), ("tracker", .value), ("link", .value)]

def takeBuild (request : BuildRequest) : Argument → Except Refusal BuildRequest
  | .operand text => do
      return { request with file? := ← once request.file? (← path text) }
  | .switch name =>
      if name = "debug".toList then
        return { request with debug := ← switchOn request.debug }
      else if name = "strict".toList then
        return { request with strict := ← switchOn request.strict }
      else .error .invalid
  | .setting name value =>
      if name = "engine".toList then
        return { request with engine? := ← once request.engine? value }
      else if name = "flag".toList then
        return { request with flags := request.flags ++ [value] }
      else if name = "warn-level".toList then
        return { request with warnLevel? := ← once request.warnLevel? (← level value) }
      else if name = "master".toList then
        return { request with master? := ← once request.master? (← path value) }
      else if name = "tracker".toList then
        return { request with rule? := ← once request.rule? (← ruleNamed value) }
      else if name = "link".toList then
        return { request with link? := ← once request.link? value }
      else .error .invalid

def replayForms : List (Text × OptionForm) :=
  [("file", .value), ("dir", .value), ("json", .switch), ("strict", .switch),
    ("tracker", .value)]

def takeReplay (request : ReplayRequest) : Argument → Except Refusal ReplayRequest
  | .operand text => do
      return { request with file? := ← once request.file? (← path text) }
  | .switch name =>
      if name = "json".toList then
        return { request with json := ← switchOn request.json }
      else if name = "strict".toList then
        return { request with strict := ← switchOn request.strict }
      else .error .invalid
  | .setting name value =>
      if name = "file".toList then
        return { request with defaultFile? := ← once request.defaultFile? value }
      else if name = "dir".toList then
        return { request with baseDir? := ← once request.baseDir? (← path value) }
      else if name = "tracker".toList then
        return { request with rule? := ← once request.rule? (← ruleNamed value) }
      else .error .invalid

def buildName : Text := "build"

def replayName : Text := "parse"

def isHelpTopic : List Text → Bool
  | [] => true
  | [topic] => topic = buildName || topic = replayName || topic = Argument.helpName
  | _ => false

def ofArguments : List Text → Except Refusal Request
  | [] => .error .nothingGiven
  | name :: rest =>
      if name = buildName then do
        let request ← Argument.readAll (fun name => buildForms.lookup name) takeBuild {} rest
        match request.file? with
        | some file => .ok (build file request)
        | none => .error .invalid
      else if name = replayName then do
        let request ← Argument.readAll (fun name => replayForms.lookup name) takeReplay {} rest
        match request.file? with
        | some file => .ok (replay file request)
        | none => .error .invalid
      else if name = Argument.helpName then
        .error (if isHelpTopic rest then .helpAsked else .invalid)
      else
        match name, rest with
        | '-' :: 'h' :: _, _ => .error .helpAsked
        | ['-', '-', 'h', 'e', 'l', 'p'], _ => .error .helpAsked
        | ['-', '-'], [] => .error .nothingGiven
        | _, _ => .error .invalid

end Request

end Typeset
