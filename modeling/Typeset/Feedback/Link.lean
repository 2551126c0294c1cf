import Typeset.Path.FileUrl

/-!
Targets of links to a place in a file.  A template has places for the URL of the file, its path and
the line; they are filled one after the other.
-/

namespace Typeset.Link

def urlPlace : Text := "\x7burl\x7d"

def pathPlace : Text := "\x7bpath\x7d"

def linePlace : Text := "\x7bline\x7d"

def defaultTemplate : Text := urlPlace

def lineText (line? : Option UInt32) : Text :=
  match line? with
  | some line => Text.ofNat line.toNat
  | none => []

def target (template : Text) (file : Path) (line? : Option UInt32) : Text :=
  Text.replace linePlace (lineText line?)
    (Text.replace pathPlace file (Text.replace urlPlace (Path.fileUrl file) template))

end Typeset.Link
