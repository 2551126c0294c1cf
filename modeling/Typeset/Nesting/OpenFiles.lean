import Typeset.Journal
import Typeset.Path.Basic
import Typeset.Text.Blank
import Typeset.Text.Quoted

/-!
The files that are open at a point of the engine's output.  The innermost one stands first.
-/

namespace Typeset

structure OpenFiles where
  innermostFirst : List Path := []
deriving DecidableEq, Repr

namespace OpenFiles

def empty : OpenFiles := {}

/-- The open files from the outermost to the innermost. -/
def paths (files : OpenFiles) : List Path :=
  files.innermostFirst.reverse

def depth (files : OpenFiles) : Nat :=
  files.innermostFirst.length

def isEmpty (files : OpenFiles) : Bool :=
  files.innermostFirst.isEmpty

def push (files : OpenFiles) (path : Path) : OpenFiles where
  innermostFirst := Text.trimEnd path :: files.innermostFirst

def pop? (files : OpenFiles) : Option (Path × OpenFiles) :=
  match files.innermostFirst with
  | [] => none
  | path :: outer => some (path, ⟨outer⟩)

/-- Forgets the entries without a path that lie innermost. -/
def settle (files : OpenFiles) : OpenFiles where
  innermostFirst := files.innermostFirst.dropWhile List.isEmpty

def current? (files : OpenFiles) : Option Path :=
  files.settle.innermostFirst.head?

def enterNote (files : OpenFiles) (path : Path) : Note where
  level := .debug
  text := "enter " ++ Text.quoted (Text.trimEnd path) ++ " (depth " ++
    Text.ofNat (files.depth + 1) ++ ")"

def leaveNote (path : Path) (outer : OpenFiles) : Note where
  level := .debug
  text := "leave " ++ Text.quoted path ++ " (depth " ++ Text.ofNat outer.depth ++ ")"

@[simp] theorem paths_empty : empty.paths = [] := rfl

@[simp] theorem paths_push (files : OpenFiles) (path : Path) :
    (files.push path).paths = files.paths ++ [Text.trimEnd path] := by
  simp [paths, push]

@[simp] theorem depth_push (files : OpenFiles) (path : Path) :
    (files.push path).depth = files.depth + 1 := by
  simp [depth, push]

theorem pop?_eq_none_iff (files : OpenFiles) : files.pop? = none ↔ files.paths = [] := by
  cases files with
  | mk innermostFirst => cases innermostFirst <;> simp [pop?, paths]

end OpenFiles

end Typeset
