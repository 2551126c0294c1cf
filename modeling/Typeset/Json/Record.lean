import Typeset.Json.Value
import Typeset.Text.Digit

/-!
Records in JSON: an object with named members, or an array of the values in the order of the names.
Members with other names are passed over, whatever their values hold.
-/

namespace Typeset.Json

/-- The values by name.  A name given twice is refused. -/
def fields? (names : List Text) : Value → Option (List (Text × Value))
  | .array items => if items.length ≤ names.length then some (names.zip items) else none
  | .object members => do
      let named ← members.mapM fun (key, value) => (textOf? key).map fun name => (name, value)
      let known := named.filter fun (name, _) => name ∈ names
      if (known.map Prod.fst).Nodup then some known else none
  | _ => none

def field? (fields : List (Text × Value)) (name : Text) (default? : Option α)
    (read? : Value → Option α) : Option α :=
  match fields.lookup name with
  | some value => read? value
  | none => default?

namespace Value

def asText? : Value → Option Text
  | string pieces => textOf? pieces
  | _ => none

def asBool? : Value → Option Bool
  | bool value => some value
  | _ => none

def asNat? (bound : Nat) : Value → Option Nat
  | number lexeme =>
      (Text.natural? lexeme).bind fun value => if value < bound then some value else none
  | _ => none

def optional? (read? : Value → Option α) : Value → Option (Option α)
  | null => some none
  | value => (read? value).map some

def asTexts? : Value → Option (List Text)
  | array items => items.mapM asText?
  | _ => none

/-- One of a list of items by its name, alone or as the one member of an object, which is null. -/
def oneOf? (all : List α) (name : α → Text) : Value → Option α
  | string pieces => find (textOf? pieces)
  | object [(key, null)] => find (textOf? key)
  | _ => none
where
  find (wanted? : Option Text) : Option α :=
    wanted?.bind fun wanted => all.find? fun item => name item = wanted

end Value

end Typeset.Json
