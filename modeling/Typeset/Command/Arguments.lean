import Typeset.Text.Basic

/-!
The grammar of command-line arguments.  They are read from left to right and taken one by one, so
the first argument that is wrong, or asks for help, decides.
-/

namespace Typeset

inductive OptionForm where
  | switch
  /-- A value; one that starts with a dash must be attached by an equals sign. -/
  | value
  | anyValue
deriving DecidableEq, Repr

inductive Argument where
  | operand (text : Text)
  | switch (name : Text)
  | setting (name value : Text)
deriving DecidableEq, Repr

inductive Refusal where
  | helpAsked
  | nothingGiven
  | invalid
deriving DecidableEq, Repr

namespace Argument

/-- Whether an argument cannot be a value by itself.  A lone dash can. -/
def isDashed : Text → Bool
  | '-' :: _ :: _ => true
  | _ => false

def splitSetting (text : Text) : Text × Option Text :=
  match text.takeWhile (· ≠ '='), text.dropWhile (· ≠ '=') with
  | name, '=' :: value => (name, some value)
  | name, _ => (name, none)

def helpName : Text := "help"

/-- Reads arguments into a state.  Behind two dashes all are operands. -/
def readAll (form? : Text → Option OptionForm) (take : σ → Argument → Except Refusal σ)
    (state : σ) : List Text → Except Refusal σ
  | [] => .ok state
  | ['-', '-'] :: rest => rest.foldlM (fun state text => take state (.operand text)) state
  | ('-' :: '-' :: text) :: rest =>
      let (name, attached?) := splitSetting text
      if name = helpName then .error (if attached?.isSome then .invalid else .helpAsked)
      else
        match form? name, attached?, rest with
        | some .switch, none, rest => do
            readAll form? take (← take state (.switch name)) rest
        | some .value, some value, rest => do
            readAll form? take (← take state (.setting name value)) rest
        | some .anyValue, some value, rest => do
            readAll form? take (← take state (.setting name value)) rest
        | some .value, none, value :: rest =>
            if isDashed value then .error .invalid
            else do readAll form? take (← take state (.setting name value)) rest
        | some .anyValue, none, value :: rest => do
            readAll form? take (← take state (.setting name value)) rest
        | _, _, _ => .error .invalid
  | ('-' :: 'h' :: _) :: _ => .error .helpAsked
  | ('-' :: _ :: _) :: _ => .error .invalid
  | text :: rest => do readAll form? take (← take state (.operand text)) rest

end Argument

end Typeset
