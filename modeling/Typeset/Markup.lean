import Typeset.Text.Basic

/-!
Text inside markup: the characters that would be read as markup are written as entities.
-/

namespace Typeset.Markup

def entity? : Char → Option Text
  | '&' => some "&amp;"
  | '<' => some "&lt;"
  | '>' => some "&gt;"
  | _ => none

def attributeEntity? : Char → Option Text
  | '"' => some "&quot;"
  | c => entity? c

def escape (text : Text) : Text :=
  text.flatMap fun c => (entity? c).getD [c]

def escapeAttribute (text : Text) : Text :=
  text.flatMap fun c => (attributeEntity? c).getD [c]

end Typeset.Markup
