import Mathlib.Data.List.Forall2
import Typeset.Proofs.Text.Ends
import Typeset.Text.Lines

/-!
Cutting a text after its line feeds, and what the two ways to end a line leave of it.
-/

namespace Typeset.Text

section Cutting

variable {α : Type} [DecidableEq α] {stop : α}

theorem cutAfter_stop {front : List α} (noStop : stop ∉ front) (rest : List α) :
    cutAfter stop (front ++ stop :: rest) = (front ++ [stop]) :: cutAfter stop rest := by
  induction front with
  | nil => simp [cutAfter]
  | cons head front ih =>
      rw [List.mem_cons, not_or] at noStop
      obtain ⟨other, noStopLater⟩ := noStop
      simp [cutAfter, Ne.symm other, ih noStopLater]

theorem cutAfter_last {items : List α} (noStop : stop ∉ items) (nonempty : items ≠ []) :
    cutAfter stop items = [items] := by
  induction items with
  | nil => exact absurd rfl nonempty
  | cons head items ih =>
      rw [List.mem_cons, not_or] at noStop
      obtain ⟨other, noStopLater⟩ := noStop
      cases items with
      | nil => simp [cutAfter, Ne.symm other]
      | cons next items =>
          rw [cutAfter, if_neg (Ne.symm other), ih noStopLater (List.cons_ne_nil next items)]

theorem cutAfter_induction (stop : α) {motive : List α → Prop} (nil : motive [])
    (last : ∀ items, stop ∉ items → items ≠ [] → motive items)
    (piece : ∀ front rest, stop ∉ front → motive rest → motive (front ++ stop :: rest))
    (items : List α) : motive items := by
  by_cases stops : stop ∈ items
  · obtain ⟨front, rest, same, noStop⟩ := List.eq_append_cons_of_mem stops
    have shorter : rest.length < items.length := by
      simp only [same, List.length_append, List.length_cons]
      omega
    rw [same]
    exact piece front rest noStop (cutAfter_induction stop nil last piece rest)
  · by_cases empty : items = []
    · rw [empty]
      exact nil
    · exact last items stops empty
termination_by items.length

/-- The pieces of a list, each of them up to a stop and with it.  What is left behind the last stop
is a piece if it is anything at all. -/
inductive Pieces (stop : α) : List α → List (List α) → Prop
  | none : Pieces stop [] []
  | last {items : List α} : stop ∉ items → items ≠ [] → Pieces stop items [items]
  | piece {front rest : List α} {pieces : List (List α)} : stop ∉ front → Pieces stop rest pieces →
      Pieces stop (front ++ stop :: rest) ((front ++ [stop]) :: pieces)

theorem pieces_iff {items : List α} {pieces : List (List α)} :
    Pieces stop items pieces ↔ cutAfter stop items = pieces := by
  constructor
  · intro cut
    induction cut with
    | none => rfl
    | last noStop nonempty => exact cutAfter_last noStop nonempty
    | piece noStop _ ih => rw [cutAfter_stop noStop, ih]
  · rintro rfl
    induction items using cutAfter_induction stop with
    | nil => exact .none
    | last items noStop nonempty =>
        rw [cutAfter_last noStop nonempty]
        exact .last noStop nonempty
    | piece front rest noStop ih =>
        rw [cutAfter_stop noStop]
        exact .piece noStop ih

end Cutting

theorem trim_append_blanks (text : Text) {blanks : Text} (blank : ∀ c ∈ blanks, isBlank c) :
    trim (text ++ blanks) = trim text := by
  rw [trim, trim, trimStart, trimStart, List.dropWhile_append]
  split
  · next allBlank =>
      rw [List.isEmpty_iff] at allBlank
      rw [allBlank, List.dropWhile_eq_nil_iff.mpr blank]
  · exact trimEnd_append_blanks _ blank

def Stripped (text line : Text) : Prop :=
  ∃ ended, text = line ++ ended ∧ (∀ c ∈ ended, c = '\r' ∨ c = '\n') ∧
    ∀ last ∈ line.getLast?, last ≠ '\r' ∧ last ≠ '\n'

theorem stripped_dropLineEnds (text : Text) : Stripped text (Text.dropLineEnds text) := by
  obtain ⟨ended, same, ends, stays⟩ := exists_dropEndWhile isLineEnd text
  refine ⟨ended, same, fun c member => ?_, fun last isLast => ?_⟩
  · simpa [isLineEnd, or_comm] using ends c member
  · simpa [isLineEnd, and_comm] using stays last isLast

/-- The second line is the first one with carriage returns behind it. -/
def Returned (line text : Text) : Prop :=
  ∃ count, text = line ++ List.replicate count '\r'

variable {line text front : Text}

theorem Returned.trim (returned : Returned line text) : trim text = trim line := by
  obtain ⟨count, rfl⟩ := returned
  refine trim_append_blanks line ?_
  intro c member
  rw [List.eq_of_mem_replicate member]
  rfl

theorem Returned.dropLineEnds (returned : Returned line text) :
    dropLineEnds text = dropLineEnds line := by
  obtain ⟨count, rfl⟩ := returned
  refine dropEndWhile_append_of_all line ?_
  intro c member
  rw [List.eq_of_mem_replicate member]
  rfl

theorem returned_of_dropLineEnds (noBreak : '\n' ∉ front) :
    Returned (Text.dropLineEnds front) front := by
  obtain ⟨ended, same, ends, -⟩ := exists_dropEndWhile isLineEnd front
  have returns : ∀ c ∈ ended, c = '\r' := by
    intro c member
    have noFeed : c ≠ '\n' := by
      rintro rfl
      exact noBreak (same ▸ List.mem_append_right _ member)
    simpa [isLineEnd, noFeed] using ends c member
  refine ⟨ended.length, ?_⟩
  rw [← List.eq_replicate_of_mem returns]
  exact same

theorem dropLineEnds_feed (front : Text) :
    Text.dropLineEnds (front ++ ['\n']) = Text.dropLineEnds front :=
  dropEndWhile_append_of_all front (by simp [isLineEnd])

theorem dropLineBreak_of_not_mem (noBreak : '\n' ∉ text) : dropLineBreak text = text := by
  rw [← List.mem_reverse] at noBreak
  unfold dropLineBreak
  split
  · next same => simp [same] at noBreak
  · next same => simp [same] at noBreak
  · rfl

theorem dropLineBreak_return (front : Text) : dropLineBreak (front ++ ['\r', '\n']) = front := by
  simp [dropLineBreak]

theorem dropLineBreak_feed {last : Char} (other : last ≠ '\r') (front : Text) :
    dropLineBreak (front ++ [last, '\n']) = front ++ [last] := by
  simp [dropLineBreak, other]

theorem dropLineBreak_unreturned {front : Text} (noReturn : '\r' ∉ front) :
    dropLineBreak (front ++ ['\n']) = front := by
  rcases List.eq_nil_or_concat front with rfl | ⟨start, last, rfl⟩
  · rfl
  · rw [List.concat_eq_append] at noReturn ⊢
    have other : last ≠ '\r' := by
      rintro rfl
      exact noReturn (List.mem_append_right start (List.mem_singleton_self _))
    rw [List.append_assoc, List.singleton_append, dropLineBreak_feed other]

theorem returned_dropLineBreak (noBreak : '\n' ∉ front) :
    Returned (Text.dropLineEnds front) (dropLineBreak (front ++ ['\n'])) := by
  rcases List.eq_nil_or_concat front with rfl | ⟨start, last, rfl⟩
  · exact ⟨0, rfl⟩
  · rw [List.concat_eq_append] at noBreak ⊢
    -- Only a carriage return right before the line feed is dropped with it.
    by_cases isReturn : last = '\r'
    · have noBreakBefore : '\n' ∉ start := fun member => noBreak (List.mem_append_left _ member)
      have ends : Text.dropLineEnds (start ++ [last]) = Text.dropLineEnds start :=
        dropEndWhile_append_of_all start (by simp [isLineEnd, isReturn])
      rw [ends, isReturn, List.append_assoc, List.singleton_append, dropLineBreak_return]
      exact returned_of_dropLineEnds noBreakBefore
    · have ends := returned_of_dropLineEnds noBreak
      rw [List.append_assoc, List.singleton_append, dropLineBreak_feed isReturn]
      exact ends

theorem Returned.lineFeed_not_mem (returned : Returned line text) (noBreak : '\n' ∉ line) :
    '\n' ∉ text := by
  obtain ⟨count, rfl⟩ := returned
  rw [List.mem_append, not_or]
  exact ⟨noBreak, fun member => absurd (List.eq_of_mem_replicate member) (by decide)⟩

theorem lineFeed_not_mem_of_mem_cutAfter {piece : Text} (member : piece ∈ cutAfter '\n' text) :
    '\n' ∉ Text.dropLineEnds piece ∧ '\n' ∉ dropLineBreak piece := by
  have dropped {front : Text} (noBreak : '\n' ∉ front) : '\n' ∉ Text.dropLineEnds front :=
    mt mem_of_mem_dropEndWhile noBreak
  induction text using cutAfter_induction '\n' with
  | nil => simp [cutAfter] at member
  | last text noBreak nonempty =>
      rw [cutAfter_last noBreak nonempty, List.mem_singleton] at member
      rw [member, dropLineBreak_of_not_mem noBreak]
      exact ⟨dropped noBreak, noBreak⟩
  | piece front rest noBreak ih =>
      rw [cutAfter_stop noBreak, List.mem_cons] at member
      rcases member with rfl | later
      · rw [dropLineEnds_feed]
        exact ⟨dropped noBreak,
          (returned_dropLineBreak noBreak).lineFeed_not_mem (dropped noBreak)⟩
      · exact ih later

theorem lineFeed_not_mem_of_mem_lines (member : line ∈ lines text) : '\n' ∉ line := by
  obtain ⟨piece, cut, rfl⟩ := List.mem_map.mp member
  exact (lineFeed_not_mem_of_mem_cutAfter cut).2

end Typeset.Text
