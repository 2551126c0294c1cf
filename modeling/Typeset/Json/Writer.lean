import Typeset.Json.Value

namespace Typeset.Json

inductive Style where
  | compact
  | indented
deriving DecidableEq, Repr

namespace Style

def lineBreak : Style → Nat → Text
  | compact, _ => []
  | indented, depth => '\n' :: List.replicate (2 * depth) ' '

def gap : Style → Text
  | compact => []
  | indented => [' ']

end Style

def escapeUnit (unit : Nat) : Text :=
  ['\\', 'u', Nat.digitChar (unit / 0x1000 % 16), Nat.digitChar (unit / 0x100 % 16),
    Nat.digitChar (unit / 16 % 16), Nat.digitChar (unit % 16)]

def escapeChar (c : Char) : Text :=
  match c with
  | '"' => ['\\', '"']
  | '\\' => ['\\', '\\']
  | '\x08' => ['\\', 'b']
  | '\x0c' => ['\\', 'f']
  | '\n' => ['\\', 'n']
  | '\r' => ['\\', 'r']
  | '\t' => ['\\', 't']
  | c => if c < ' ' then escapeUnit c.toNat else [c]

def escapePiece : Piece → Text
  | .char c => escapeChar c
  | .half unit => escapeUnit unit

def writeString (pieces : List Piece) : Text :=
  '"' :: pieces.flatMap escapePiece ++ ['"']

mutual

/-- Writes a value whose container stands at the given depth. -/
def writeAt (style : Style) (depth : Nat) : Value → Text
  | .null => "null"
  | .bool true => "true"
  | .bool false => "false"
  | .number lexeme => lexeme
  | .string pieces => writeString pieces
  | .array [] => ['[', ']']
  | .array (item :: items) =>
      '[' :: style.lineBreak (depth + 1) ++ writeAt style (depth + 1) item ++
        writeItems style (depth + 1) items ++ style.lineBreak depth ++ [']']
  | .object [] => ['{', '}']
  | .object ((key, value) :: members) =>
      '{' :: style.lineBreak (depth + 1) ++ writeString key ++ ':' :: style.gap ++
        writeAt style (depth + 1) value ++ writeMembers style (depth + 1) members ++
        style.lineBreak depth ++ ['}']

def writeItems (style : Style) (depth : Nat) : List Value → Text
  | [] => []
  | item :: items =>
      ',' :: style.lineBreak depth ++ writeAt style depth item ++ writeItems style depth items

def writeMembers (style : Style) (depth : Nat) : List (List Piece × Value) → Text
  | [] => []
  | (key, value) :: members =>
      ',' :: style.lineBreak depth ++ writeString key ++ ':' :: style.gap ++
        writeAt style depth value ++ writeMembers style depth members

end

def write (style : Style) (value : Value) : Text :=
  writeAt style 0 value

end Typeset.Json
