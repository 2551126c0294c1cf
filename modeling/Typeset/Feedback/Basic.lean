import Typeset.Feedback.Link
import Typeset.Markup
import Typeset.Message.Diagnostic

/-!
What is shown for a line, and the markup of each kind of message.
-/

namespace Typeset

inductive Rendering where
  | verbatim
  | empty
  | html (markup : Text)
deriving DecidableEq, Repr

structure Feedback where
  rendering : Rendering
  diagnostic? : Option Diagnostic := none
deriving DecidableEq, Repr

namespace Rendering

def text (raw : Text) : Rendering → Text
  | verbatim => raw
  | empty => []
  | html markup => markup

def location (file : Path) (line? : Option UInt32) : Text :=
  let name := (Path.fileName? file).getD file
  match line? with
  | some line => name ++ ':' :: Text.ofNat line.toNat
  | none => name

def paragraph (template : Text) (file : Path) (line? : Option UInt32) (message : Text) : Text :=
  "<p><a href=\"" ++ Markup.escapeAttribute (Link.target template file line?) ++ "\">" ++
    Markup.escape (location file line?) ++ "</a> " ++ Markup.escape message ++ "</p>"

def heading (text : Text) : Text :=
  "<h4>" ++ Markup.escape text ++ "…</h4>"

def rule : Text := "<hr/>"

end Rendering

end Typeset
