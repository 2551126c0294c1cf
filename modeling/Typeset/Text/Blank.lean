import Typeset.Text.Basic

/-!
Blank characters, those with Unicode's White_Space property, and the text without the blanks at its
ends.
-/

namespace Typeset.Text

def isBlank (c : Char) : Bool :=
  ('\t' ≤ c && c ≤ '\r') || c = ' ' || c = '\u0085' || c = '\u00a0' || c = '\u1680' ||
    ('\u2000' ≤ c && c ≤ '\u200a') || c = '\u2028' || c = '\u2029' || c = '\u202f' ||
    c = '\u205f' || c = '\u3000'

def isLineEnd (c : Char) : Bool :=
  c = '\n' || c = '\r'

def trimStart (text : Text) : Text :=
  text.dropWhile isBlank

def trimEnd (text : Text) : Text :=
  dropEndWhile isBlank text

def trim (text : Text) : Text :=
  trimEnd (trimStart text)

def dropLineEnds (line : Text) : Text :=
  dropEndWhile isLineEnd line

end Typeset.Text
