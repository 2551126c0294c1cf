import Typeset.Json.Token

/-!
Reading a value from its tokens.  A machine takes one token at a time and keeps the containers that
it is inside, innermost first.
-/

namespace Typeset.Json

/-- A container whose next item or member is being read. -/
inductive Frame where
  | item (before : List Value)
  | member (before : List (List Piece × Value)) (key : List Piece)

inductive Place where
  | value (outer : List Frame)
  | firstItem (outer : List Frame)
  | firstKey (outer : List Frame)
  | key (before : List (List Piece × Value)) (outer : List Frame)
  | colon (before : List (List Piece × Value)) (key : List Piece) (outer : List Frame)
  | behind (value : Value) (outer : List Frame)

namespace Place

def open? (outer : List Frame) : Token → Option Place
  | .null => some (.behind .null outer)
  | .bool content => some (.behind (.bool content) outer)
  | .number lexeme => some (.behind (.number lexeme) outer)
  | .string pieces => some (.behind (.string pieces) outer)
  | .openArray => some (.firstItem outer)
  | .openObject => some (.firstKey outer)
  | _ => none

def step? : Place → Token → Option Place
  | .value outer, token => open? outer token
  | .firstItem outer, .closeArray => some (.behind (.array []) outer)
  | .firstItem outer, token => open? (.item [] :: outer) token
  | .firstKey outer, .closeObject => some (.behind (.object []) outer)
  | .firstKey outer, .string name => some (.colon [] name outer)
  | .key before outer, .string name => some (.colon before name outer)
  | .colon before name outer, .colon => some (.value (.member before name :: outer))
  | .behind item (.item before :: outer), .comma =>
      some (.value (.item (before ++ [item]) :: outer))
  | .behind item (.item before :: outer), .closeArray =>
      some (.behind (.array (before ++ [item])) outer)
  | .behind item (.member before name :: outer), .comma =>
      some (.key (before ++ [(name, item)]) outer)
  | .behind item (.member before name :: outer), .closeObject =>
      some (.behind (.object (before ++ [(name, item)])) outer)
  | _, _ => none

def complete? : Place → Option Value
  | .behind content [] => some content
  | _ => none

end Place

def ofTokens? (tokens : List Token) : Option Value := do
  let place ← tokens.foldlM Place.step? (.value [])
  place.complete?

def read? (text : Text) : Option Value :=
  (tokens? text).bind ofTokens?

end Typeset.Json
