import Typeset.Text.Basic

/-!
How serious a message is.  The levels are what a reader's threshold is compared with.
-/

namespace Typeset

inductive Severity where
  | none
  | badBox
  | warning
deriving DecidableEq, Repr

namespace Severity

def level : Severity → Nat
  | none => 0
  | badBox => 1
  | warning => 2

def all : List Severity := [none, badBox, warning]

def name : Severity → Text
  | none => "none"
  | badBox => "bad_box"
  | warning => "warning"

def title : Severity → Text
  | none => "None"
  | badBox => "BadBox"
  | warning => "Warning"

def max (first second : Severity) : Severity :=
  if first.level ≤ second.level then second else first

@[simp] theorem none_max (severity : Severity) : max none severity = severity := by
  cases severity <;> rfl

@[simp] theorem max_none (severity : Severity) : max severity none = severity := by
  cases severity <;> rfl

theorem max_assoc (first second third : Severity) :
    max (max first second) third = max first (max second third) := by
  cases first <;> cases second <;> cases third <;> rfl

theorem level_max (first second : Severity) :
    (max first second).level = Nat.max first.level second.level := by
  cases first <;> cases second <;> rfl

theorem mem_all (severity : Severity) : severity ∈ all := by
  cases severity <;> simp [all]

end Severity

end Typeset
