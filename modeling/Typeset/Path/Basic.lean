import Typeset.Text.Basic

/-!
Paths as text.  Names are separated by slashes; empty names and `.` say nothing, except that a
leading `.` is kept when a path is taken apart.  Nothing here looks at a file system.
-/

namespace Typeset

abbrev Path := Text

namespace Path

def isAbsolute : Path → Bool
  | '/' :: _ => true
  | _ => false

def isIdle (name : Text) : Bool :=
  name = [] || name = ['.']

def up : Text := ['.', '.']

def names (path : Path) : List Text :=
  (Text.splitOn '/' path).filter fun name => !isIdle name

/-- The root or leading `.` of a path, and the rest of it. -/
def anchor : Path → Text × Text
  | '/' :: rest => (['/'], rest)
  | ['.'] => (['.'], [])
  | '.' :: '/' :: rest => (['.'], '/' :: rest)
  | path => ([], path)

/-- The names after the anchor, up to the last one that leads somewhere. -/
def body (path : Path) : List Text :=
  Text.dropEndWhile isIdle (Text.splitOn '/' (anchor path).2)

def ofBody (anchor : Text) (body : List Text) : Path :=
  anchor ++ Text.joinWith ['/'] body

def fileName? (path : Path) : Option Text :=
  match (body path).getLast? with
  | some name => if name = up then none else some name
  | none => none

def parent? (path : Path) : Option Path :=
  let (anchor, _) := anchor path
  match body path with
  | [] => if anchor = ['.'] then some [] else none
  | names => some (ofBody anchor (Text.dropEndWhile isIdle names.dropLast))

def directory (path : Path) : Path :=
  match parent? path with
  | some (first :: rest) => first :: rest
  | _ => ['.']

def join (base path : Path) : Path :=
  if isAbsolute path then path
  else
    match base.getLast? with
    | none => path
    | some last => if last = '/' then base ++ path else base ++ '/' :: path

/-- A file name before and after its last dot.  A dot at the front starts no extension. -/
def splitExtension (name : Text) : Text × Option Text :=
  match (name.reverse.takeWhile (· ≠ '.')).reverse, name.reverse.dropWhile (· ≠ '.') with
  | extension, '.' :: first :: rest => ((first :: rest).reverse, some extension)
  | _, _ => (name, none)

def replaceEnding (ending : Text) (path : Path) : Path :=
  match fileName? path with
  | none => path
  | some name =>
      ofBody (anchor path).1 ((body path).dropLast ++ [(splitExtension name).1 ++ ending])

/-- The path with another extension.  The length of the old extension is first cut off the end of
the path, whatever stands there; `..tex` thereby becomes `..`, which names no file. -/
def withExtension (extension : Text) (path : Path) : Path :=
  match (fileName? path).bind fun name => (splitExtension name).2 with
  | some old => replaceEnding ('.' :: extension) (path.take (path.length - old.length))
  | none => replaceEnding ('.' :: extension) path

/-- The path as seen from the root, for one seen from the home directory.  `..` stays, a slash at
the end stays, and so does a root of exactly two slashes. -/
def absolute (home path : Path) : Path :=
  let names := Text.joinWith ['/'] (names path)
  let start := match path with
    | '/' :: '/' :: '/' :: _ => "/" ++ names
    | '/' :: '/' :: _ => "//" ++ names
    | '/' :: _ => "/" ++ names
    | _ => if names = [] then home else join home names
  if path.getLast? = some '/' then join start [] else start

@[simp] theorem join_of_isAbsolute {base path : Path} (h : isAbsolute path = true) :
    join base path = path := by
  simp [join, h]

end Path

end Typeset
