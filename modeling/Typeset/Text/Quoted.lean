import Typeset.Text.Hidden

/-!
Text between double quotes, for reports: quotes, backslashes and characters without a picture are
written as escapes.
-/

namespace Typeset.Text

def hexDigits (number : Nat) : Text :=
  Nat.toDigits 16 number

def escapeQuoted (c : Char) : Text :=
  match c with
  | '\x00' => "\\0"
  | '\t' => "\\t"
  | '\n' => "\\n"
  | '\r' => "\\r"
  | '"' => "\\\""
  | '\\' => "\\\\"
  | c => if isHidden c then "\\u\x7b" ++ hexDigits c.toNat ++ "\x7d" else [c]

def quoted (text : Text) : Text :=
  '"' :: text.flatMap escapeQuoted ++ ['"']

def quotedList (texts : List Text) : Text :=
  '[' :: joinWith ", " (texts.map quoted) ++ [']']

end Typeset.Text
