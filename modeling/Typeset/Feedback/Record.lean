import Typeset.Feedback.Feed
import Typeset.Json.Reader
import Typeset.Json.Record
import Typeset.Json.Writer

namespace Typeset

namespace Diagnostic

def fieldNames : List Text := ["file", "line", "message", "severity", "kind"]

def toJson (diagnostic : Diagnostic) : Json.Value :=
  .sparseRecord
    [("file", diagnostic.file?.map .ofText),
      ("line", diagnostic.line?.map fun line => .ofNat line.toNat),
      ("message", some (.ofText diagnostic.message)),
      ("severity", some (.ofText diagnostic.severity.name)),
      ("kind", some (.ofText diagnostic.kind.name))]

def ofJson? (value : Json.Value) : Option Diagnostic := do
  let fields ← Json.fields? fieldNames value
  let file? ← Json.field? fields "file" (some none) (Json.Value.optional? Json.Value.asText?)
  let line? ← Json.field? fields "line" (some none)
    (Json.Value.optional? (Json.Value.asNat? UInt32.size))
  let message ← Json.field? fields "message" none Json.Value.asText?
  let severity ← Json.field? fields "severity" none (Json.Value.oneOf? Severity.all Severity.name)
  let kind ← Json.field? fields "kind" none
    (Json.Value.oneOf? DiagnosticKind.all DiagnosticKind.name)
  some { file?, line? := line?.map UInt32.ofNat, message, severity, kind }

def write (diagnostic : Diagnostic) : Text :=
  Json.write .compact diagnostic.toJson

def read? (text : Text) : Option Diagnostic :=
  (Json.read? text).bind ofJson?

end Diagnostic

namespace Summary

def toJson (summary : Summary) : Json.Value :=
  .record
    [("lines", .ofNat summary.tally.lines), ("diagnostics", .ofNat summary.tally.diagnostics),
      ("tracker_faults", .ofNat summary.tally.faults), ("highest", .ofText summary.highest.name)]

def write (summary : Summary) : Text :=
  Json.write .compact summary.toJson

end Summary

end Typeset
