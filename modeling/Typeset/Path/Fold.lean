import Typeset.Path.Basic

/-!
Lexical folding: `..` removes the name before it, and nothing where there is none.
-/

namespace Typeset.Path

def foldName (kept : List Text) (name : Text) : List Text :=
  if name = up then kept.tail else name :: kept

def foldNames (names : List Text) : List Text :=
  (names.foldl foldName []).reverse

def ofNames (rooted : Bool) (names : List Text) : Path :=
  (if rooted then ['/'] else []) ++ Text.joinWith ['/'] names

def fold (path : Path) : Path :=
  ofNames (isAbsolute path) (foldNames (names path))

/-- Rewrites a path that starts with a dot as seen from the base, and leaves any other alone. -/
def resolveFrom (base? : Option Path) (path : Path) : Path :=
  match base?, path with
  | some base, '.' :: _ => fold (join base path)
  | _, _ => path

@[simp] theorem resolveFrom_none (path : Path) : resolveFrom none path = path := by
  simp [resolveFrom]

end Typeset.Path
