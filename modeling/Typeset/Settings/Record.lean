import Typeset.Json.Reader
import Typeset.Json.Record
import Typeset.Json.Writer
import Typeset.Settings.Basic

/-!
Settings as a JSON record.  Every field may be missing; a missing one has its default.
-/

namespace Typeset.Settings

def fieldNames : List Text :=
  ["engine", "flags", "warn_level", "master", "debug", "tracker", "policy", "link_template"]

def toJson (settings : Settings) : Json.Value :=
  .record
    [("engine", .ofText? settings.engine?),
      ("flags", .array (settings.flags.map .ofText)),
      ("warn_level", .ofNat settings.warnLevel.toNat),
      ("master", .ofText? settings.master?),
      ("debug", .bool settings.debug),
      ("tracker", .ofText settings.rule.name),
      ("policy", .ofText settings.policy.name),
      ("link_template", .ofText? settings.linkTemplate?)]

def ofJson? (value : Json.Value) : Option Settings := do
  let fields ← Json.fields? fieldNames value
  let default : Settings := {}
  let text? := Json.Value.optional? Json.Value.asText?
  let engine? ← Json.field? fields "engine" (some default.engine?) text?
  let flags ← Json.field? fields "flags" (some default.flags) Json.Value.asTexts?
  let warnLevel ← Json.field? fields "warn_level" (some default.warnLevel.toNat)
    (Json.Value.asNat? 256)
  let master? ← Json.field? fields "master" (some default.master?) text?
  let debug ← Json.field? fields "debug" (some default.debug) Json.Value.asBool?
  let rule ← Json.field? fields "tracker" (some default.rule)
    (Json.Value.oneOf? NestingRule.all NestingRule.name)
  let policy ← Json.field? fields "policy" (some default.policy)
    (Json.Value.oneOf? FaultPolicy.all FaultPolicy.name)
  let linkTemplate? ← Json.field? fields "link_template" (some default.linkTemplate?) text?
  some
    { engine?, flags, warnLevel := UInt8.ofNat warnLevel, master?, debug, rule, policy,
      linkTemplate? }

def write (settings : Settings) : Text :=
  Json.write .indented settings.toJson

def read? (text : Text) : Option Settings :=
  (Json.read? text).bind ofJson?

end Typeset.Settings
