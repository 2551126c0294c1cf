import Typeset.Message.Diagnostic
import Typeset.Text.Blank
import Typeset.Text.Digit

/-!
The messages of the engine, each told from its line alone.  The forms are tried in a fixed order, so
a line of two forms is a message of the earlier one.
-/

namespace Typeset

inductive Message where
  | diagnostic (diagnostic : Diagnostic)
  | headline (text : Text)
  | separator
deriving DecidableEq, Repr

namespace Message

/-- A line that opens an error block.  An arrow after the mark announces a trace instead. -/
def isErrorHeader : Text → Bool
  | '!' :: rest => (Text.after? "==>" (Text.trimStart rest)).isNone
  | _ => false

def leadingDigits? (text : Text) : Option (Text × Text) :=
  match text.takeWhile Text.isDecimalDigit with
  | [] => none
  | digits => some (digits, text.dropWhile Text.isDecimalDigit)

def citation? (text : Text) : Option Text :=
  (((Text.after? "lines " text).bind leadingDigits?).or
    ((Text.after? "line " text).bind leadingDigits?)).map Prod.fst

/-- The line number cited first.  If its digits are no line number, no later one is taken. -/
def citedLine? : Text → Option UInt32
  | [] => none
  | c :: rest =>
      match citation? (c :: rest) with
      | some digits => Text.lineNumber? digits
      | none => citedLine? rest

def error? (line : Text) : Option Diagnostic :=
  if isErrorHeader line then
    some { line? := citedLine? line, message := line, severity := .none, kind := .error }
  else none

def warning? (line : Text) : Option Diagnostic :=
  if '\n' ∈ line then none
  else
    (Text.afterLast? "Warning: " line).map fun message =>
      { line? := citedLine? line, message, severity := .warning, kind := .warning }

def badBox? (line : Text) : Option Diagnostic :=
  if (Text.after? "Overfull" line).isSome || (Text.after? "Underfull" line).isSome then
    some { line? := citedLine? line, message := line, severity := .badBox, kind := .badBox }
  else none

/-- A message behind a file name and a line number, each with a colon after it. -/
def located? (line : Text) : Option Diagnostic :=
  match line.takeWhile (· ≠ ':'), line.dropWhile (· ≠ ':') with
  | first :: others, ':' :: rest => do
      let (digits, rest) ← leadingDigits? rest
      let message ← Text.after? ": " rest
      if '\n' ∈ message then none
      else
        some
          { file? := some (first :: others), line? := Text.lineNumber? digits, message,
            severity := .none, kind := .located }
  | _, _ => none

/-- The context line of an error: a line number and the source up to the error. -/
def lineReference? (line : Text) : Option Diagnostic := do
  let rest ← Text.after? "l." line
  let (digits, context) ← leadingDigits? rest
  if '\n' ∈ context then none
  else
    some
      { line? := Text.lineNumber? digits, message := Text.trim context, severity := .none,
        kind := .lineReference }

def headline? (line : Text) : Option Text :=
  match Text.after? "-->" line with
  | some text => if '\n' ∈ text then none else some text
  | none => none

def isSeparator (line : Text) : Bool :=
  !line.isEmpty && line.all (· = '-')

def diagnostic? (line : Text) : Option Diagnostic :=
  (error? line).or <| (warning? line).or <| (badBox? line).or <| (located? line).or <|
    lineReference? line

def ofTrimmed? (line : Text) : Option Message :=
  ((diagnostic? line).map diagnostic).or <| ((headline? line).map headline).or <|
    if isSeparator line then some separator else none

def ofLine? (line : Text) : Option Message :=
  ofTrimmed? (Text.trim line)

end Message

end Typeset
