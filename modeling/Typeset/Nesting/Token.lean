import Typeset.Text.Blank
import Typeset.Text.Digit

/-!
The file tokens of a line of output, and the recognisers of their pieces.  A recogniser answers with
what it found and with the rest of the text.
-/

namespace Typeset

inductive FileToken where
  | opened (path : Text)
  | closed
  /-- A pair of parentheses that names no file. -/
  | pair
  /-- A path from the line before is completed, and its file closed at once. -/
  | passed (path : Text)
  /-- A path goes on in the next line. -/
  | wrapped (head : Text)
deriving DecidableEq, Repr

namespace FileToken

def isPathChar (c : Char) : Bool :=
  c ≠ '(' && c ≠ ')' && c ≠ '\n'

def pageMarker? (text : Text) : Option Text :=
  match text.dropWhile Text.isBlank with
  | '[' :: inner =>
      match inner.takeWhile Text.isDecimalDigit, inner.dropWhile Text.isDecimalDigit with
      | _ :: _, ']' :: rest => some rest
      | _, _ => none
  | _ => none

def afterMarker? (stop? : Text → Option α) (text : Text) : Option α :=
  ((pageMarker? text).bind stop?).or (stop? text)

/-- The shortest path from which on the stop is recognised. -/
def shortestPath? (stop? : Text → Option α) : Text → Option (Text × α)
  | [] => (stop? []).map fun found => ([], found)
  | c :: rest =>
      match stop? (c :: rest) with
      | some found => some ([], found)
      | none =>
          if isPathChar c then
            (shortestPath? stop? rest).map fun (path, found) => (c :: path, found)
          else none

def firstOpening? (path? : Text → Option α) : Text → Option α
  | [] => none
  | c :: rest => (if c = '(' then path? rest else none).or (firstOpening? path? rest)

def atEnd? : Text → Option Text
  | [] => some []
  | _ :: _ => none

def atOpening? : Text → Option Text
  | [] => some []
  | '(' :: rest => some ('(' :: rest)
  | _ :: _ => none

def atBlankOpening? (text : Text) : Option Text :=
  match text.dropWhile Text.isBlank with
  | '(' :: rest => some ('(' :: rest)
  | _ => none

end FileToken

end Typeset
