import Typeset.Nesting.Token

/-!
The joining reading of a line: any path names a file, and a path that reaches the full line width is
continued by the next line.
-/

namespace Typeset.FileToken.Joined

/-- The width, in bytes, at which the engine breaks its lines. -/
def wrapWidth : Nat := 79

def isFullWidth (line : Text) : Bool :=
  wrapWidth ≤ Text.byteLength line

/-- The number of closing parentheses at the start of a text, each after any number of spaces, and
the text after them.  Spaces are held until it shows whether a parenthesis follows them. -/
def leadingCloses (held : Text) : Text → Nat × Text
  | ' ' :: rest => leadingCloses (' ' :: held) rest
  | ')' :: rest =>
      let (count, body) := leadingCloses [] rest
      (count + 1, body)
  | body => (0, held ++ body)

def openAtEnd? (body : Text) : Option Text :=
  (firstOpening? (shortestPath? (afterMarker? atEnd?)) body).map Prod.fst

def openBefore? (body : Text) : Option Text :=
  (firstOpening? (shortestPath? atBlankOpening?) body).map Prod.fst

def opening (full : Bool) (body : Text) : List FileToken :=
  match openAtEnd? body with
  | some path => [if full then .wrapped path else .opened path]
  | none =>
      match openBefore? body with
      | some path => [.opened path]
      | none => []

/-- Of several closing parentheses at the end of a line all but the first close files whose opening
is no longer in view. -/
def trailingCloses (body : Text) : Nat :=
  (body.reverse.takeWhile (· = ')')).length - 1

def lineTokens (full : Bool) (text : Text) : List FileToken :=
  let (count, body) := leadingCloses [] text
  List.replicate count .closed ++ opening full body ++
    List.replicate (trailingCloses body) .closed

def continuation (full : Bool) (head line : Text) : List FileToken :=
  let path := head ++ line.takeWhile fun c => c ≠ '(' && c ≠ ')'
  match line.dropWhile fun c => c ≠ '(' && c ≠ ')' with
  | [] => [.opened path]
  | ')' :: rest => .passed path :: lineTokens full rest
  | rest => .opened path :: lineTokens full rest

/-- The tokens of a line, after the pending start of a path if there is one.  There are none when
such a path would have to go on over a line feed. -/
def tokens? (pending? : Option Text) (line : Text) : Option (List FileToken) :=
  match pending? with
  | none => some (lineTokens (isFullWidth line) line)
  | some head =>
      if '\n' ∈ line then none else some (continuation (isFullWidth line) head line)

end Typeset.FileToken.Joined
