import Typeset.Proofs.Json.Record
import Typeset.Settings.Layers

/-!
Settings as layers.  Each source of settings supplies some of them, and what it supplies stands over
what the sources below it do.
-/

namespace Typeset

/-- What one source of settings supplies. -/
structure Layer where
  engine? : Option Text := none
  flags? : Option (List Text) := none
  warnLevel? : Option UInt8 := none
  master? : Option Path := none
  debug : Bool := false
  rule? : Option NestingRule := none
  policy? : Option FaultPolicy := none
  linkTemplate? : Option Text := none
deriving DecidableEq, Repr

namespace Layer

def laidOver (layer : Layer) (settings : Settings) : Settings where
  engine? := layer.engine?.or settings.engine?
  flags := layer.flags?.getD settings.flags
  warnLevel := layer.warnLevel?.getD settings.warnLevel
  master? := layer.master?.or settings.master?
  debug := settings.debug || layer.debug
  rule := layer.rule?.getD settings.rule
  policy := layer.policy?.getD settings.policy
  linkTemplate? := layer.linkTemplate?.or settings.linkTemplate?

/-- The settings under layers, the highest one first, over the defaults. -/
def stacked (layers : List Layer) : Settings :=
  layers.foldr laidOver {}

@[simp] theorem laidOver_nothing (settings : Settings) : laidOver {} settings = settings := by
  simp [laidOver]

def ofRecord (record : Json.Value) : Layer where
  engine? := (record.fieldAt? 0 "engine").bind Json.Value.asText?
  flags? := (record.fieldAt? 1 "flags").bind Json.Value.asTexts?
  warnLevel? := ((record.fieldAt? 2 "warn_level").bind (Json.Value.asNat? 256)).map UInt8.ofNat
  master? := (record.fieldAt? 3 "master").bind Json.Value.asText?
  debug := ((record.fieldAt? 4 "debug").bind Json.Value.asBool?).getD false
  rule? := (record.fieldAt? 5 "tracker").bind (Json.Value.oneOf? NestingRule.all NestingRule.name)
  policy? := (record.fieldAt? 6 "policy").bind (Json.Value.oneOf? FaultPolicy.all FaultPolicy.name)
  linkTemplate? := (record.fieldAt? 7 "link_template").bind Json.Value.asText?

def ofFile (workspace : Workspace) (path : Path) : Layer :=
  match workspace.readText path with
  | .ok text => (Json.read? text).elim {} ofRecord
  | .error _ => {}

theorem ofFile_of_not_isFile {workspace : Workspace} {path : Path}
    (missing : workspace.isFile path = false) :
    ofFile workspace path = {} := by
  rw [Workspace.isFile] at missing
  rw [ofFile, Workspace.readText]
  cases content : workspace.read path with
  | error fault => rfl
  | ok bytes => simp [content] at missing

end Layer

namespace Settings

theorem of_ofJson? {value : Json.Value} {settings : Settings}
    (read : ofJson? value = some settings) : settings = (Layer.ofRecord value).laidOver {} := by
  simp only [ofJson?, Option.bind_eq_bind, Option.bind_eq_some_iff, Option.some.injEq] at read
  obtain ⟨fields, named, engine?, engine, flags, flagList, level, levelRead, master?, master, debug,
    debugRead, rule, ruleRead, policy, policyRead, link?, link, rfl⟩ := read
  have field {place : Nat} {name : Text} (stands : fieldNames[place]? = some name) :
      fields.lookup name = value.fieldAt? place name :=
    Json.lookup_of_fields? named (by decide) stands
  rw [Json.of_optionalField? engine, Json.of_field? flagList, Json.of_field? levelRead,
    Json.of_optionalField? master, Json.of_field? debugRead, Json.of_field? ruleRead,
    Json.of_field? policyRead, Json.of_optionalField? link]
  rw [@field 0 _ rfl, @field 1 _ rfl, @field 2 _ rfl, @field 3 _ rfl, @field 4 _ rfl,
    @field 5 _ rfl, @field 6 _ rfl, @field 7 _ rfl]
  have number (level? : Option Nat) : UInt8.ofNat (level?.getD (UInt8.toNat 0)) =
      (level?.map UInt8.ofNat).getD 0 := by
    cases level? <;> rfl
  simp only [Layer.ofRecord, Layer.laidOver, Option.or_none, Bool.false_or, number]

variable {workspace : Workspace} {path document : Path} {settings : Settings}

theorem of_load (loaded : load workspace path = .ok settings) :
    settings = (Layer.ofFile workspace path).laidOver {} := by
  rw [load] at loaded
  rw [Layer.ofFile]
  cases content : workspace.readText path with
  | error fault => simp [content] at loaded
  | ok text =>
      simp only [content] at loaded
      split at loaded
      · next other read =>
          cases loaded
          obtain ⟨value, parsed, made⟩ := Option.bind_eq_some_iff.mp read
          rw [of_ofJson? made]
          simp only [parsed, Option.elim_some]
      · cases loaded

def Discoverable (workspace : Workspace) (document : Path) : Prop :=
  workspace.isFile (fileFor document) = false ∨
    ∃ settings, load workspace (fileFor document) = .ok settings

theorem discover_eq (discoverable : Discoverable workspace document) :
    discover workspace document = .ok ((Layer.ofFile workspace (fileFor document)).laidOver {}) := by
  rw [discover]
  cases isFile : workspace.isFile (fileFor document) with
  | false =>
      rw [Layer.ofFile_of_not_isFile isFile, Layer.laidOver_nothing]
      rfl
  | true =>
      rcases discoverable with missing | ⟨settings, loaded⟩
      · rw [isFile] at missing
        cases missing
      · rw [loaded, of_load loaded]
        rfl

end Settings

end Typeset
