import Typeset.Digest.Sha256
import Typeset.Workspace.Basic

namespace Typeset

structure Artifact where
  path : Path
  fingerprint : Text
deriving DecidableEq, Repr

namespace Artifact

def at? (workspace : Workspace) (path : Path) : Option Artifact :=
  match workspace.read path with
  | .ok content => some { path, fingerprint := Sha256.digest content }
  | .error _ => none

def changedSince (artifact : Artifact) (earlier? : Option Artifact) : Bool :=
  match earlier? with
  | some earlier => earlier.fingerprint ≠ artifact.fingerprint
  | none => true

end Artifact

end Typeset
