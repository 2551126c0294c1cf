import Typeset.Json.Value

/-!
The tokens of a JSON text.  They are told apart by a machine that reads one character at a time.
Letters, digits, signs and points in a row make one word, since no two words may touch.
-/

namespace Typeset.Json

inductive Token where
  | openArray
  | closeArray
  | openObject
  | closeObject
  | comma
  | colon
  | null
  | bool (value : Bool)
  | number (lexeme : Text)
  | string (pieces : List Piece)
deriving DecidableEq, Repr

/-- What is being read.  What was read of it stands last first. -/
inductive Lexing where
  | between
  | word (read : Text)
  | string (read : List Piece)
  | escape (read : List Piece)
  | unit (read : List Piece) (missing value : Nat)
deriving DecidableEq, Repr

def digits? (text : Text) : Option (Text × Text) :=
  match text.takeWhile Char.isDigit with
  | [] => none
  | digits => some (digits, text.dropWhile Char.isDigit)

def fraction? : Text → Option Text
  | '.' :: rest => (digits? rest).map Prod.snd
  | text => some text

def dropSign : Text → Text
  | '+' :: rest => rest
  | '-' :: rest => rest
  | text => text

def exponent? : Text → Option Text
  | 'e' :: rest => (digits? (dropSign rest)).map Prod.snd
  | 'E' :: rest => (digits? (dropSign rest)).map Prod.snd
  | text => some text

/-- A number without its minus sign.  A whole part of several digits does not start with zero. -/
def isUnsigned (word : Text) : Bool :=
  match digits? word with
  | some ('0' :: _ :: _, _) => false
  | some (_, rest) => ((fraction? rest).bind exponent?) = some []
  | none => false

def isNumber : Text → Bool
  | '-' :: rest => isUnsigned rest
  | word => isUnsigned word

def wordToken? (word : Text) : Option Token :=
  if word = "null".toList then some .null
  else if word = "true".toList then some (.bool true)
  else if word = "false".toList then some (.bool false)
  else if isNumber word then some (.number word)
  else none

def isBlank (c : Char) : Bool :=
  c = ' ' || c = '\t' || c = '\n' || c = '\r'

def isWordChar (c : Char) : Bool :=
  c.isAlphanum || c = '+' || c = '-' || c = '.'

def mark? : Char → Option Token
  | '[' => some .openArray
  | ']' => some .closeArray
  | '{' => some .openObject
  | '}' => some .closeObject
  | ',' => some .comma
  | ':' => some .colon
  | _ => none

def escaped? : Char → Option Char
  | '"' => some '"'
  | '\\' => some '\\'
  | '/' => some '/'
  | 'b' => some '\x08'
  | 'f' => some '\x0c'
  | 'n' => some '\n'
  | 'r' => some '\r'
  | 't' => some '\t'
  | _ => none

def hexValue? (c : Char) : Option Nat :=
  if c.isDigit then some (c.toNat - '0'.toNat)
  else if 'a' ≤ c ∧ c ≤ 'f' then some (c.toNat - 'a'.toNat + 10)
  else if 'A' ≤ c ∧ c ≤ 'F' then some (c.toNat - 'A'.toNat + 10)
  else none

def pieceOfUnit (unit : Nat) : Piece :=
  if 0xd800 ≤ unit ∧ unit < 0xe000 then .half unit else .char (Char.ofNat unit)

namespace Lexing

def start? (c : Char) : Option (List Token × Lexing) :=
  if isBlank c then some ([], between)
  else if c = '"' then some ([], string [])
  else if isWordChar c then some ([], word [c])
  else (mark? c).map fun token => ([token], between)

/-- Reads a character of a string.  Control characters are refused. -/
def insideString? (read : List Piece) (c : Char) : Option (List Token × Lexing) :=
  if c = '"' then some ([.string read.reverse], between)
  else if c = '\\' then some ([], escape read)
  else if c < ' ' then none
  else some ([], string (.char c :: read))

def step? : Lexing → Char → Option (List Token × Lexing)
  | between, c => start? c
  | word read, c =>
      if isWordChar c then some ([], word (c :: read))
      else do
        let token ← wordToken? read.reverse
        let (tokens, next) ← start? c
        some (token :: tokens, next)
  | string read, c => insideString? read c
  | escape read, c =>
      if c = 'u' then some ([], unit read 4 0)
      else (escaped? c).map fun c => ([], string (.char c :: read))
  | unit read missing value, c => do
      let value := 16 * value + (← hexValue? c)
      match missing with
      | 0 | 1 => some ([], string (pieceOfUnit value :: read))
      | missing + 2 => some ([], unit read (missing + 1) value)

def finish? : Lexing → Option (List Token)
  | between => some []
  | word read => (wordToken? read.reverse).map fun token => [token]
  | _ => none

def tokens? : Lexing → Text → Option (List Token)
  | state, [] => state.finish?
  | state, c :: rest => do
      let (tokens, next) ← state.step? c
      let others ← next.tokens? rest
      some (tokens ++ others)

end Lexing

def tokens? (text : Text) : Option (List Token) :=
  Lexing.between.tokens? text

end Typeset.Json
