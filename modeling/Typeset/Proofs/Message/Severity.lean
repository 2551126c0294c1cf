import Typeset.Proofs.Message.Heard
import Typeset.Proofs.Text.Search

/-!
How serious a line is.  Its text alone tells, so a listener has heard at most what is told by the
most serious of its lines.
-/

namespace Typeset

namespace Severity

theorem level_le_max_left (first second : Severity) : first.level ≤ (max first second).level := by
  rw [level_max]
  exact Nat.le_max_left _ _

theorem level_max_mono {first second : Severity} (below : first.level ≤ second.level)
    (other : Severity) : (max first other).level ≤ (max second other).level := by
  rw [level_max, level_max]
  exact Nat.max_le.mpr ⟨Nat.le_trans below (Nat.le_max_left _ _), Nat.le_max_right _ _⟩

def maximum (severities : List Severity) : Severity :=
  severities.foldr max none

theorem level_injective {first second : Severity} (same : first.level = second.level) :
    first = second := by
  revert same
  cases first <;> cases second <;> decide

/-- As serious as each of several, and one of them if it is serious at all. -/
structure IsHighest (highest : Severity) (severities : List Severity) : Prop where
  bounds : ∀ severity ∈ severities, severity.level ≤ highest.level
  attained : highest = .none ∨ highest ∈ severities

namespace IsHighest

variable {highest other : Severity} {severities others : List Severity}

theorem level_le_iff (highestOf : IsHighest highest severities) (bound : Nat) :
    highest.level ≤ bound ↔ ∀ severity ∈ severities, severity.level ≤ bound := by
  constructor
  · intro below severity among
    exact Nat.le_trans (highestOf.bounds severity among) below
  · intro all
    rcases highestOf.attained with rfl | among
    · exact Nat.zero_le _
    · exact all highest among

theorem unique (first : IsHighest highest severities) (second : IsHighest other severities) :
    highest = other :=
  level_injective (Nat.le_antisymm ((first.level_le_iff _).mpr second.bounds)
    ((second.level_le_iff _).mpr first.bounds))

theorem perm (highestOf : IsHighest highest severities) (same : severities.Perm others) :
    IsHighest highest others where
  bounds severity among := highestOf.bounds severity (same.mem_iff.mpr among)
  attained := highestOf.attained.imp_right same.mem_iff.mp

end IsHighest

theorem isHighest_maximum (severities : List Severity) :
    IsHighest (maximum severities) severities := by
  induction severities with
  | nil => exact ⟨fun _ among => absurd among List.not_mem_nil, .inl rfl⟩
  | cons severity severities ih =>
      rw [maximum, List.foldr_cons, max]
      split
      · next below =>
          exact ⟨List.forall_mem_cons.mpr ⟨below, ih.bounds⟩,
            ih.attained.imp_right (List.mem_cons_of_mem _)⟩
      · next above =>
          have below := Nat.le_of_not_le above
          refine ⟨List.forall_mem_cons.mpr ⟨Nat.le_refl _, fun other among => ?_⟩,
            .inr List.mem_cons_self⟩
          exact Nat.le_trans (ih.bounds other among) below

theorem maximum_perm {first second : List Severity} (same : first.Perm second) :
    maximum first = maximum second :=
  ((isHighest_maximum first).perm same).unique (isHighest_maximum second)

theorem level_maximum_le_iff (severities : List Severity) (bound : Nat) :
    (maximum severities).level ≤ bound ↔ ∀ severity ∈ severities, severity.level ≤ bound :=
  (isHighest_maximum severities).level_le_iff bound

end Severity

def DiagnosticKind.severity : DiagnosticKind → Severity
  | error => .none
  | warning => .warning
  | badBox => .badBox
  | located => .none
  | lineReference => .none

namespace Message

/-- How serious a line is, by what its text holds and starts with. -/
def severityOf (line : Text) : Severity :=
  let text := Text.trim line
  if isErrorHeader text then .none
  else if '\n' ∉ text ∧ Text.contains "Warning: " text then .warning
  else if ("Overfull" : Text).isPrefixOf text || ("Underfull" : Text).isPrefixOf text then .badBox
  else .none

variable {line : Text} {diagnostic : Diagnostic}

theorem severity_of_diagnostic? (read : diagnostic? line = some diagnostic) :
    diagnostic.severity = diagnostic.kind.severity := by
  simp only [diagnostic?, Option.or_eq_some_iff] at read
  rcases read with read | ⟨-, read | ⟨-, read | ⟨-, read | ⟨-, read⟩⟩⟩⟩
  · simp only [error?, Option.ite_none_right_eq_some, Option.some.injEq] at read
    rw [← read.2]
    rfl
  · simp only [warning?, Option.ite_none_left_eq_some, Option.map_eq_some_iff] at read
    obtain ⟨-, message, -, rfl⟩ := read
    rfl
  · simp only [badBox?, Option.ite_none_right_eq_some, Option.some.injEq] at read
    rw [← read.2]
    rfl
  · unfold located? at read
    split at read
    · simp only [Option.bind_eq_bind, Option.bind_eq_some_iff, Option.ite_none_left_eq_some,
        Option.some.injEq] at read
      obtain ⟨_, -, _, -, -, rfl⟩ := read
      rfl
    · cases read
  · simp only [lineReference?, Option.bind_eq_bind, Option.bind_eq_some_iff,
      Option.ite_none_left_eq_some, Option.some.injEq] at read
    obtain ⟨_, -, _, -, -, rfl⟩ := read
    rfl

theorem isSome_warning?_iff (line : Text) :
    (warning? line).isSome ↔ '\n' ∉ line ∧ Text.contains "Warning: " line = true := by
  rw [warning?, Text.contains_iff, ← Text.isSome_afterLast?_iff]
  split
  · next broken => simp [broken]
  · next unbroken => simp [unbroken]

theorem isSome_badBox?_iff (line : Text) :
    (badBox? line).isSome ↔
      (("Overfull" : Text).isPrefixOf line || ("Underfull" : Text).isPrefixOf line) = true := by
  simp only [badBox?, Option.isSome_ite, Bool.or_eq_true, Text.isSome_after?_iff,
    List.isPrefixOf_iff_prefix]

theorem severity_eq_none (read : diagnostic? line = some diagnostic)
    (noWarning : warning? line = none) (noBox : badBox? line = none) :
    diagnostic.severity = .none := by
  rw [severity_of_diagnostic? read]
  have form := readAs?_kind read
  cases kind : diagnostic.kind with
  | warning =>
      rw [kind, readAs?, noWarning] at form
      cases form
  | badBox =>
      rw [kind, readAs?, noBox] at form
      cases form
  | error | located | lineReference => rfl

theorem severity_cases (text : Text) :
    ((diagnostic? text).map Diagnostic.severity).getD .none =
      if isErrorHeader text then .none
      else if (warning? text).isSome then .warning
      else if (badBox? text).isSome then .badBox
      else .none := by
  have told (found : Diagnostic) (read : diagnostic? text = some found) :
      ((diagnostic? text).map Diagnostic.severity).getD .none = found.kind.severity := by
    rw [read, Option.map_some, Option.getD_some, severity_of_diagnostic? read]
  cases header : isErrorHeader text with
  | true =>
      obtain ⟨found, isError⟩ := exists_error? header
      rw [if_pos rfl, told found (by simp [diagnostic?, isError]), kind_of_error? isError]
      rfl
  | false =>
      have noError := error?_eq_none header
      rw [if_neg (by simp)]
      cases warning : warning? text with
      | some found =>
          rw [if_pos Option.isSome_some, told found (by simp [diagnostic?, noError, warning]),
            kind_of_warning? warning]
          rfl
      | none =>
          rw [if_neg (by simp)]
          cases box : badBox? text with
          | some found =>
              rw [if_pos Option.isSome_some,
                told found (by simp [diagnostic?, noError, warning, box]), kind_of_badBox? box]
              rfl
          | none =>
              rw [if_neg (by simp)]
              cases read : diagnostic? text with
              | none => rfl
              | some found => exact severity_eq_none read warning box

theorem severityOf_eq (line : Text) :
    severityOf line = ((announced? line).map Diagnostic.severity).getD .none := by
  rw [announced?, severity_cases]
  simp only [severityOf, isSome_warning?_iff, isSome_badBox?_iff]

end Message

namespace Listener

theorem highest_hear (listener : Listener) (line : Text) :
    (listener.hear line).2.highest = listener.highest.max (Message.severityOf line) := by
  rw [Message.severityOf_eq]
  cases read : Message.announced? line with
  | some diagnostic => rw [hear_of_announced listener read, note, Option.map_some, Option.getD_some]
  | none =>
      obtain ⟨heard, hears, -⟩ := hear_of_not_announced listener read
      rw [hears, Option.map_none, Option.getD_none, Severity.max_none]

end Listener

end Typeset
