import Typeset.Message.Listener

/-!
What a listener makes of a line: the diagnostic on it is the same in every state, and its kind alone
decides whether the listener is inside an error block afterwards.
-/

namespace Typeset

namespace Message

def announced? (line : Text) : Option Diagnostic :=
  diagnostic? (Text.trim line)

def isLineReference (line : Text) : Bool :=
  (announced? line).any fun diagnostic => diagnostic.kind = .lineReference

variable {line : Text} {diagnostic : Diagnostic}

theorem kind_of_error? (read : error? line = some diagnostic) : diagnostic.kind = .error := by
  simp only [error?, Option.ite_none_right_eq_some, Option.some.injEq] at read
  rw [← read.2]

theorem kind_of_warning? (read : warning? line = some diagnostic) :
    diagnostic.kind = .warning := by
  simp only [warning?, Option.ite_none_left_eq_some, Option.map_eq_some_iff] at read
  obtain ⟨-, message, -, rfl⟩ := read
  rfl

theorem kind_of_badBox? (read : badBox? line = some diagnostic) : diagnostic.kind = .badBox := by
  simp only [badBox?, Option.ite_none_right_eq_some, Option.some.injEq] at read
  rw [← read.2]

theorem kind_of_located? (read : located? line = some diagnostic) :
    diagnostic.kind = .located := by
  unfold located? at read
  split at read
  · simp only [Option.bind_eq_bind, Option.bind_eq_some_iff, Option.ite_none_left_eq_some,
      Option.some.injEq] at read
    obtain ⟨_, -, _, -, -, rfl⟩ := read
    rfl
  · cases read

theorem kind_of_lineReference? (read : lineReference? line = some diagnostic) :
    diagnostic.kind = .lineReference := by
  simp only [lineReference?, Option.bind_eq_bind, Option.bind_eq_some_iff,
    Option.ite_none_left_eq_some, Option.some.injEq] at read
  obtain ⟨_, -, _, -, -, rfl⟩ := read
  rfl

def readAs? : DiagnosticKind → Text → Option Diagnostic
  | .error => error?
  | .warning => warning?
  | .badBox => badBox?
  | .located => located?
  | .lineReference => lineReference?

theorem readAs?_kind (read : diagnostic? line = some diagnostic) :
    readAs? diagnostic.kind line = some diagnostic := by
  simp only [diagnostic?, Option.or_eq_some_iff] at read
  rcases read with read | ⟨-, read | ⟨-, read | ⟨-, read | ⟨-, read⟩⟩⟩⟩
  · rwa [kind_of_error? read]
  · rwa [kind_of_warning? read]
  · rwa [kind_of_badBox? read]
  · rwa [kind_of_located? read]
  · rwa [kind_of_lineReference? read]

theorem exists_error? (header : isErrorHeader line = true) :
    ∃ diagnostic, error? line = some diagnostic := by
  simp [error?, header]

theorem error?_eq_none (noHeader : isErrorHeader line = false) : error? line = none := by
  simp [error?, noHeader]

theorem kind_eq_error_iff (read : diagnostic? line = some diagnostic) :
    diagnostic.kind = .error ↔ isErrorHeader line = true := by
  cases header : isErrorHeader line with
  | true =>
      obtain ⟨found, isError⟩ := exists_error? header
      simp only [diagnostic?, isError, Option.some_or, Option.some.injEq] at read
      simp [← read, kind_of_error? isError]
  | false =>
      have other : diagnostic.kind ≠ .error := by
        intro isError
        have form := readAs?_kind read
        rw [isError, readAs?, error?_eq_none header] at form
        cases form
      simp [other]

theorem file?_of_kind_error (read : diagnostic? line = some diagnostic)
    (isError : diagnostic.kind = .error) : diagnostic.file? = none := by
  have header := (kind_eq_error_iff read).mp isError
  simp only [diagnostic?, error?, header, if_true, Option.some_or, Option.some.injEq] at read
  rw [← read]

theorem exists_announced_of_isErrorHeader (header : isErrorHeader (Text.trim line) = true) :
    ∃ diagnostic, announced? line = some diagnostic ∧ diagnostic.kind = .error := by
  obtain ⟨found, isError⟩ := exists_error? header
  exact ⟨found, by simp [announced?, diagnostic?, isError], kind_of_error? isError⟩

theorem ofLine?_eq_some_diagnostic (read : announced? line = some diagnostic) :
    ofLine? line = some (.diagnostic diagnostic) := by
  rw [announced?] at read
  simp [ofLine?, ofTrimmed?, read]

theorem ofLine?_ne_some_diagnostic (read : announced? line = none) (diagnostic : Diagnostic) :
    ofLine? line ≠ some (.diagnostic diagnostic) := by
  rw [announced?] at read
  intro same
  simp only [ofLine?, ofTrimmed?, read, Option.map_none, Option.none_or, Option.or_eq_some_iff,
    Option.map_eq_some_iff] at same
  rcases same with ⟨_, -, other⟩ | ⟨-, same⟩
  · cases other
  · split at same <;> cases same

end Message

namespace Listener

def modeAfterLine (mode : ListenerMode) (line : Text) : ListenerMode :=
  match Message.announced? line with
  | some diagnostic => modeAfter mode diagnostic.kind
  | none => mode

variable {line : Text} {mode : ListenerMode}

theorem hear_of_announced {diagnostic : Diagnostic} (listener : Listener)
    (read : Message.announced? line = some diagnostic) :
    listener.hear line =
      (.message (.diagnostic diagnostic), listener.note (.diagnostic diagnostic)) := by
  rw [hear, Message.ofLine?_eq_some_diagnostic read]

theorem hear_of_not_announced (listener : Listener) (read : Message.announced? line = none) :
    ∃ heard, listener.hear line = (heard, listener) ∧
      ∀ diagnostic, heard ≠ .message (.diagnostic diagnostic) := by
  have noDiagnostic := Message.ofLine?_ne_some_diagnostic read
  unfold hear
  cases heard : Message.ofLine? line with
  | none =>
      refine ⟨_, rfl, fun diagnostic same => ?_⟩
      split at same <;> cases same
  | some message =>
      refine ⟨.message message, ?_, ?_⟩
      · cases message with
        | diagnostic diagnostic => exact absurd heard (noDiagnostic diagnostic)
        | headline text => rfl
        | separator => rfl
      · rintro diagnostic ⟨⟩
        exact noDiagnostic diagnostic heard

theorem mode_hear (listener : Listener) (line : Text) :
    (listener.hear line).2.mode = modeAfterLine listener.mode line := by
  unfold modeAfterLine
  cases read : Message.announced? line with
  | some diagnostic => rw [hear_of_announced listener read, note]
  | none =>
      obtain ⟨heard, hears, -⟩ := hear_of_not_announced listener read
      rw [hears]

theorem modeAfterLine_header (header : Message.isErrorHeader (Text.trim line) = true) :
    modeAfterLine mode line = .insideError := by
  obtain ⟨diagnostic, read, kind⟩ := Message.exists_announced_of_isErrorHeader header
  simp [modeAfterLine, read, kind, modeAfter]

theorem modeAfterLine_lineReference (reference : Message.isLineReference line = true) :
    modeAfterLine mode line = .normal := by
  simp only [Message.isLineReference, Option.any_eq_true, decide_eq_true_eq] at reference
  obtain ⟨diagnostic, read, kind⟩ := reference
  simp [modeAfterLine, read, kind, modeAfter]

theorem modeAfterLine_normal (noHeader : Message.isErrorHeader (Text.trim line) = false) :
    modeAfterLine .normal line = .normal := by
  unfold modeAfterLine
  cases read : Message.announced? line with
  | none => rfl
  | some diagnostic =>
      have noError : diagnostic.kind ≠ .error := by
        rw [ne_eq, Message.kind_eq_error_iff read, noHeader]
        simp
      cases kind : diagnostic.kind <;> simp_all [modeAfter]

theorem modeAfterLine_insideError (noReference : Message.isLineReference line = false) :
    modeAfterLine .insideError line = .insideError := by
  unfold modeAfterLine
  cases read : Message.announced? line with
  | none => rfl
  | some diagnostic =>
      simp only [Message.isLineReference, read, Option.any_some, decide_eq_false_iff_not]
        at noReference
      cases kind : diagnostic.kind <;> simp_all [modeAfter]

end Listener

end Typeset
