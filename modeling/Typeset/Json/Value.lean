import Typeset.Text.Basic

/-!
JSON values as they are written: a number keeps its digits, an object the order and the repetition
of its members, and a string the halves of surrogate pairs that stand alone in it.
-/

namespace Typeset.Json

inductive Piece where
  | char (c : Char)
  /-- Half of a surrogate pair, written as an escape. -/
  | half (unit : Nat)
deriving DecidableEq, Repr

inductive Value where
  | null
  | bool (value : Bool)
  | number (lexeme : Text)
  | string (pieces : List Piece)
  | array (items : List Value)
  | object (members : List (List Piece × Value))
deriving Repr

def piecesOf (text : Text) : List Piece :=
  text.map Piece.char

/-- The text that the pieces of a string spell.  Halves spell a character in pairs only. -/
def textOf? : List Piece → Option Text
  | [] => some []
  | .char c :: rest => (textOf? rest).map (c :: ·)
  | .half high :: .half low :: rest =>
      if high < 0xdc00 ∧ 0xdc00 ≤ low then
        (textOf? rest).map (Char.ofNat (0x10000 + (high - 0xd800) * 0x400 + (low - 0xdc00)) :: ·)
      else none
  | .half _ :: _ => none

namespace Value

def ofText (text : Text) : Value :=
  .string (piecesOf text)

def ofNat (number : Nat) : Value :=
  .number (Text.ofNat number)

def ofText? (text? : Option Text) : Value :=
  match text? with
  | some text => ofText text
  | none => null

def record (members : List (Text × Value)) : Value :=
  .object (members.map fun (name, value) => (piecesOf name, value))

def sparseRecord (members : List (Text × Option Value)) : Value :=
  record (members.filterMap fun (name, value?) => value?.map fun value => (name, value))

end Value

@[simp] theorem textOf?_piecesOf (text : Text) : textOf? (piecesOf text) = some text := by
  induction text with
  | nil => rfl
  | cons head tail ih =>
      simp only [piecesOf, List.map_cons, textOf?] at ih ⊢
      simp [ih]

end Typeset.Json
