import Typeset.Message.Severity

namespace Typeset

inductive DiagnosticKind where
  | error
  | warning
  | badBox
  /-- A line that names a file and a line itself. -/
  | located
  /-- The context line that ends an error block. -/
  | lineReference
deriving DecidableEq, Repr

namespace DiagnosticKind

def all : List DiagnosticKind := [error, warning, badBox, located, lineReference]

def name : DiagnosticKind → Text
  | error => "error"
  | warning => "warning"
  | badBox => "bad_box"
  | located => "locator"
  | lineReference => "line_reference"

theorem mem_all (kind : DiagnosticKind) : kind ∈ all := by
  cases kind <;> simp [all]

end DiagnosticKind

structure Diagnostic where
  file? : Option Text := none
  line? : Option UInt32 := none
  message : Text
  severity : Severity
  kind : DiagnosticKind
deriving DecidableEq, Repr

end Typeset
