import Mathlib.Data.List.Induction
import Typeset.Proofs.Message.Severity

/-!
Hearing line after line.  What a listener has become is told by the diagnostics that it gave: the
last of them that opens or ends an error block decides its mode, and the most serious one its
severity.  What it makes of a line depends on its mode only if there is no message on the line.
-/

namespace Typeset

def DiagnosticKind.bounds : DiagnosticKind → Bool
  | error => true
  | lineReference => true
  | _ => false

namespace Heard

def diagnostic? : Heard → Option Diagnostic
  | message (.diagnostic diagnostic) => some diagnostic
  | _ => none

/-- What is made of the same line in a mode that may be another. -/
def inMode (mode : ListenerMode) : Heard → Heard
  | message text => message text
  | _ => if mode = .insideError then echoed else hidden

end Heard

def lastBound? (given : List Diagnostic) : Option DiagnosticKind :=
  ((given.map Diagnostic.kind).filter DiagnosticKind.bounds).getLast?

namespace Listener

def replies (listener : Listener) : List Text → List Heard
  | [] => []
  | line :: lines => (listener.hear line).1 :: (listener.hear line).2.replies lines

def diagnostics (listener : Listener) (lines : List Text) : List Diagnostic :=
  (listener.replies lines).filterMap Heard.diagnostic?

def after (listener : Listener) (lines : List Text) : Listener :=
  lines.foldl (fun listener line => (listener.hear line).2) listener

def noteAll (listener : Listener) (given : List Diagnostic) : Listener :=
  given.foldl (fun listener diagnostic => listener.note (.diagnostic diagnostic)) listener

theorem diagnostic?_hear (listener : Listener) (line : Text) :
    (listener.hear line).1.diagnostic? = Message.announced? line := by
  cases read : Message.announced? line with
  | some diagnostic =>
      rw [hear_of_announced listener read]
      rfl
  | none =>
      obtain ⟨heard, hears, noDiagnostic⟩ := hear_of_not_announced listener read
      rw [hears]
      cases heard with
      | message message =>
          cases message with
          | diagnostic diagnostic => exact absurd rfl (noDiagnostic diagnostic)
          | headline text => rfl
          | separator => rfl
      | echoed => rfl
      | hidden => rfl

theorem hear_snd (listener : Listener) (line : Text) :
    (listener.hear line).2 = listener.noteAll (Message.announced? line).toList := by
  cases read : Message.announced? line with
  | some diagnostic =>
      rw [hear_of_announced listener read]
      rfl
  | none =>
      obtain ⟨heard, hears, -⟩ := hear_of_not_announced listener read
      rw [hears]
      rfl

theorem hear_inMode (first second : Listener) (line : Text) :
    (first.hear line).1 = (second.hear line).1.inMode first.mode := by
  unfold hear
  cases Message.ofLine? line with
  | some message => rfl
  | none =>
      obtain ⟨here, -⟩ := first
      obtain ⟨there, -⟩ := second
      cases here <;> cases there <;> rfl

theorem hear_of_no_message {line : Text} (listener : Listener)
    (unmatched : Message.ofLine? line = none) :
    listener.hear line =
      (if listener.mode = .insideError then .echoed else .hidden, listener) := by
  rw [hear, unmatched]
  simp only [isInsideError, decide_eq_true_eq]

theorem replies_append (listener : Listener) (first second : List Text) :
    listener.replies (first ++ second) =
      listener.replies first ++ (listener.after first).replies second := by
  induction first generalizing listener with
  | nil => rfl
  | cons line first ih => exact congrArg ((listener.hear line).1 :: ·) (ih (listener.hear line).2)

@[simp] theorem length_replies (listener : Listener) (lines : List Text) :
    (listener.replies lines).length = lines.length := by
  induction lines generalizing listener with
  | nil => rfl
  | cons line lines ih => simp only [replies, List.length_cons, ih]

theorem after_append (listener : Listener) (first second : List Text) :
    listener.after (first ++ second) = (listener.after first).after second :=
  List.foldl_append

theorem diagnostics_eq (listener : Listener) (lines : List Text) :
    listener.diagnostics lines = lines.filterMap Message.announced? := by
  unfold diagnostics
  induction lines generalizing listener with
  | nil => rfl
  | cons line lines ih =>
      rw [replies, List.filterMap_cons, List.filterMap_cons, diagnostic?_hear, ih]

theorem noteAll_append (listener : Listener) (first second : List Diagnostic) :
    listener.noteAll (first ++ second) = (listener.noteAll first).noteAll second :=
  List.foldl_append

theorem after_eq (listener : Listener) (lines : List Text) :
    listener.after lines = listener.noteAll (listener.diagnostics lines) := by
  rw [diagnostics_eq]
  induction lines generalizing listener with
  | nil => rfl
  | cons line lines ih =>
      calc
        listener.after (line :: lines) = (listener.hear line).2.after lines := rfl
        _ = (listener.noteAll (Message.announced? line).toList).noteAll
              (lines.filterMap Message.announced?) := by rw [ih, hear_snd]
        _ = listener.noteAll ((line :: lines).filterMap Message.announced?) := by
          rw [← noteAll_append, List.filterMap_cons]
          cases Message.announced? line <;> rfl

theorem mode_noteAll (listener : Listener) (given : List Diagnostic) :
    (listener.noteAll given).mode =
      ((lastBound? given).map (modeAfter listener.mode)).getD listener.mode := by
  induction given using List.reverseRecOn with
  | nil => rfl
  | append_singleton given last ih =>
      have next : (listener.noteAll (given ++ [last])).mode =
          modeAfter (listener.noteAll given).mode last.kind := by
        rw [noteAll_append]
        rfl
      rw [next]
      cases kind : last.kind with
      | error => simp [lastBound?, kind, DiagnosticKind.bounds, modeAfter]
      | lineReference => simp [lastBound?, kind, DiagnosticKind.bounds, modeAfter]
      | warning => simpa [lastBound?, kind, DiagnosticKind.bounds, modeAfter] using ih
      | badBox => simpa [lastBound?, kind, DiagnosticKind.bounds, modeAfter] using ih
      | located => simpa [lastBound?, kind, DiagnosticKind.bounds, modeAfter] using ih

theorem highest_noteAll (listener : Listener) (given : List Diagnostic) :
    (listener.noteAll given).highest =
      listener.highest.max (Severity.maximum (given.map Diagnostic.severity)) := by
  induction given generalizing listener with
  | nil => exact (Severity.max_none _).symm
  | cons first given ih =>
      calc
        (listener.noteAll (first :: given)).highest =
            ((listener.note (.diagnostic first)).noteAll given).highest := rfl
        _ = (listener.highest.max first.severity).max
              (Severity.maximum (given.map Diagnostic.severity)) := ih _
        _ = listener.highest.max (Severity.maximum ((first :: given).map Diagnostic.severity)) :=
          Severity.max_assoc _ _ _

theorem lastBound?_cases (given : List Diagnostic) :
    lastBound? given = none ∨ lastBound? given = some .error ∨
      lastBound? given = some .lineReference := by
  cases found : lastBound? given with
  | none => exact .inl rfl
  | some kind =>
      have member := List.mem_of_getLast? found
      have bounds : kind.bounds = true := (List.mem_filter.mp member).2
      cases kind with
      | error => exact .inr (.inl rfl)
      | lineReference => exact .inr (.inr rfl)
      | warning => cases bounds
      | badBox => cases bounds
      | located => cases bounds

theorem mode_after_iff (lines : List Text) :
    (start.after lines).mode = .insideError ↔
      lastBound? (start.diagnostics lines) = some .error := by
  rw [after_eq, mode_noteAll]
  rcases lastBound?_cases (start.diagnostics lines) with found | found | found
  · rw [found]
    decide
  · rw [found]
    decide
  · rw [found]
    decide

theorem highest_after (lines : List Text) :
    (start.after lines).highest =
      Severity.maximum ((start.diagnostics lines).map Diagnostic.severity) := by
  rw [after_eq, highest_noteAll]
  exact Severity.none_max _

theorem isHighest_after (lines : List Text) :
    (start.after lines).highest.IsHighest ((start.diagnostics lines).map Diagnostic.severity) := by
  rw [highest_after]
  exact Severity.isHighest_maximum _

end Listener

open Listener (start)

/-- After any lines a listener is inside an error block exactly if, of the diagnostics it gave that
open or end one, the last is an error; its severity is that of the most serious diagnostic it gave,
or none, so it never falls and is the same for the lines in any order.  Any two listeners make the same of a
line, except that a line without a message is echoed inside error blocks and hidden elsewhere.  Such
a line changes nothing, wherever it stands. -/
theorem listener_is_told_by_diagnostics :
    (∀ lines : List Text,
        ((start.after lines).mode = .insideError ↔
            lastBound? (start.diagnostics lines) = some .error) ∧
          (start.after lines).highest.IsHighest
            ((start.diagnostics lines).map Diagnostic.severity)) ∧
      (∀ lines later : List Text,
        (start.after lines).highest.level ≤ (start.after (lines ++ later)).highest.level) ∧
      (∀ lines others : List Text, lines.Perm others →
        (start.after lines).highest = (start.after others).highest) ∧
      (∀ (first second : Listener) (line : Text),
        (first.hear line).1 = (second.hear line).1.inMode first.mode) ∧
      ∀ (before behind : List Text) (line : Text), Message.ofLine? line = none →
        (start.replies (before ++ line :: behind))[before.length]? =
            some (if lastBound? (start.diagnostics before) = some .error then .echoed
              else .hidden) ∧
          start.after (before ++ [line]) = start.after before := by
  refine ⟨fun lines => ⟨Listener.mode_after_iff lines, Listener.isHighest_after lines⟩,
    ?_, ?_, Listener.hear_inMode, ?_⟩
  · intro lines later
    rw [Listener.after_append, Listener.after_eq (start.after lines), Listener.highest_noteAll]
    exact Severity.level_le_max_left _ _
  · intro lines others same
    have given : (start.diagnostics lines).Perm (start.diagnostics others) := by
      rw [Listener.diagnostics_eq, Listener.diagnostics_eq]
      exact same.filterMap _
    exact ((Listener.isHighest_after lines).perm (given.map _)).unique
      (Listener.isHighest_after others)
  · intro before behind line unmatched
    have heard := (start.after before).hear_of_no_message unmatched
    constructor
    · rw [Listener.replies_append, List.getElem?_append_right (by simp), Listener.length_replies,
        Nat.sub_self, Listener.replies, List.getElem?_cons_zero, heard]
      simp only [Listener.mode_after_iff]
    · rw [Listener.after_append]
      exact congrArg Prod.snd heard

/-- The source line in the block is echoed, and hidden behind it; the box in it is what is most
serious, wherever it stands. -/
theorem block_is_told_by_header :
    let header : Text := "! Undefined control sequence."
    let source : Text := "<recently read> \\foo"
    let box : Text := "Overfull \\hbox in paragraph at lines 10--11"
    let context : Text := "l.12 \\foo"
    (start.replies [header, box, source, context, source])[2]? = some .echoed ∧
      (start.replies [header, box, source, context, source])[4]? = some .hidden ∧
      (start.after [header, box, context]).highest = .badBox ∧
      (start.after [context, header, box]).highest = .badBox ∧
      Severity.badBox.IsHighest
        ((start.diagnostics [header, box, context]).map Diagnostic.severity) := by
  intro header source box context
  obtain ⟨told, -, rearranged, -, unmatched⟩ := listener_is_told_by_diagnostics
  have none : Message.ofLine? source = none := by decide
  have inside : lastBound? (start.diagnostics [header, box]) = some .error := by decide
  have outside : lastBound? (start.diagnostics [header, box, source, context]) ≠ some .error := by
    decide
  obtain ⟨echoed, -⟩ := unmatched [header, box] [context, source] source none
  obtain ⟨hidden, -⟩ := unmatched [header, box, source, context] [] source none
  rw [if_pos inside] at echoed
  rw [if_neg outside] at hidden
  have isBox : (start.after [header, box, context]).highest = .badBox := by decide
  have same := rearranged [header, box, context] [context, header, box] (by decide)
  obtain ⟨-, highest⟩ := told [header, box, context]
  rw [isBox] at highest
  exact ⟨echoed, hidden, isBox, same ▸ isBox, highest⟩

end Typeset
