import Typeset.Failure
import Typeset.Settings.Basic
import Typeset.Text.ShellWords

/-!
Settings from environment variables.  The variables are taken in order, up to the first whose value
is refused.
-/

namespace Typeset

/-- The variables in their order.  Each name and value is a text: a variable that is not Unicode,
which breaks off the whole command when it is reached, is left out. -/
abbrev Environment := List (Text × Text)

namespace Environment

def names : List Text :=
  ["TEXFEED_DEBUG", "TEXFEED_ENGINE", "TEXFEED_FLAGS", "TEXFEED_LINK", "TEXFEED_MASTER",
    "TEXFEED_WARN_LEVEL"]

def ofLookup (value? : Text → Option Text) : Environment :=
  names.filterMap fun name => (value? name).map fun value => (name, value)

end Environment

namespace Settings

inductive Override where
  | engine (engine : Text)
  | flags (flags : List Text)
  | warnLevel (level : UInt8)
  | master (path : Path)
  | debug
  | link (template : Text)
deriving DecidableEq, Repr

def apply (settings : Settings) : Override → Settings
  | .engine engine => { settings with engine? := some engine }
  | .flags flags => { settings with flags }
  | .warnLevel warnLevel => { settings with warnLevel }
  | .master path => { settings with master? := some path }
  | .debug => { settings with debug := true }
  | .link template => { settings with linkTemplate? := some template }

/-- The setting that a variable makes, if it makes one.  Blank or empty values make none, except
that flags may be empty and that debugging is set by any value. -/
def override? (name value : Text) : Except Failure (Option Override) :=
  let trimmed := Text.trim value
  if name = "TEXFEED_ENGINE".toList then
    .ok (if trimmed = [] then none else some (.engine trimmed))
  else if name = "TEXFEED_FLAGS".toList then
    match ShellWords.words? value with
    | some flags => .ok (some (.flags flags))
    | none => .error (.unbalancedFlags value)
  else if name = "TEXFEED_WARN_LEVEL".toList then
    if trimmed = [] then .ok none
    else
      match Text.numberBelow 256 trimmed with
      | .ok level => .ok (some (.warnLevel (UInt8.ofNat level)))
      | .error fault => .error (.invalidWarnLevel value fault)
  else if name = "TEXFEED_MASTER".toList then
    .ok (if value = [] then none else some (.master value))
  else if name = "TEXFEED_DEBUG".toList then .ok (some .debug)
  else if name = "TEXFEED_LINK".toList then
    .ok (if value = [] then none else some (.link value))
  else .ok none

/-- Takes the variables in order.  A refused value leaves what the ones before it made. -/
def applyAll (settings : Settings) : Environment → Settings × Option Failure
  | [] => (settings, none)
  | (name, value) :: rest =>
      match override? name value with
      | .ok none => settings.applyAll rest
      | .ok (some override) => (settings.apply override).applyAll rest
      | .error failure => (settings, some failure)

end Settings

end Typeset
