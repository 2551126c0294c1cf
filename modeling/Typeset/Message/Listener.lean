import Typeset.Message.Basic

/-!
Listening to the lines one after the other: whether the engine is inside an error block, and the
highest severity heard.  Neither changes which message a line is; inside a block the lines that are
none are echoed, elsewhere they are hidden.
-/

namespace Typeset

inductive ListenerMode where
  | normal
  /-- Between the header of an error block and its context line. -/
  | insideError
deriving DecidableEq, Repr

structure Listener where
  mode : ListenerMode := .normal
  highest : Severity := .none
deriving DecidableEq, Repr

inductive Heard where
  | message (message : Message)
  | echoed
  | hidden
deriving DecidableEq, Repr

namespace Listener

def start : Listener := {}

def isInsideError (listener : Listener) : Bool :=
  listener.mode = .insideError

def modeAfter (mode : ListenerMode) : DiagnosticKind → ListenerMode
  | .error => .insideError
  | .lineReference => .normal
  | _ => mode

def note (listener : Listener) : Message → Listener
  | .diagnostic diagnostic =>
      { mode := modeAfter listener.mode diagnostic.kind
        highest := listener.highest.max diagnostic.severity }
  | .headline _ => listener
  | .separator => listener

def hear (listener : Listener) (line : Text) : Heard × Listener :=
  match Message.ofLine? line with
  | some message => (.message message, listener.note message)
  | none => (if listener.isInsideError then .echoed else .hidden, listener)

end Listener

end Typeset
