import Mathlib.Data.List.TakeWhile
import Typeset.Text.Blank

/-!
What is left of a text when a kind of character is removed from its end, and where a run of
characters of one kind stops.
-/

namespace Typeset.Text

variable {α : Type} {test : α → Bool}

def Stops (test : α → Bool) (items : List α) : Prop :=
  ∀ first ∈ items.head?, test first = false

theorem Stops.nil : Stops test [] := by
  simp [Stops]

theorem Stops.cons {first : α} (fails : test first = false) (rest : List α) :
    Stops test (first :: rest) := by
  simpa [Stops] using fails

theorem takeWhile_append_stop {run rest : List α} (passes : ∀ item ∈ run, test item)
    (stops : Stops test rest) : (run ++ rest).takeWhile test = run := by
  rw [List.takeWhile_append_of_pos passes]
  cases rest with
  | nil => simp
  | cons first others =>
      have fails : test first = false := stops first rfl
      simp [fails]

theorem dropWhile_append_stop {run rest : List α} (passes : ∀ item ∈ run, test item)
    (stops : Stops test rest) : (run ++ rest).dropWhile test = rest := by
  rw [List.dropWhile_append_of_pos passes]
  cases rest with
  | nil => rfl
  | cons first others =>
      have fails : test first = false := stops first rfl
      simp [fails]

theorem run_unique {first second firstRest secondRest : List α}
    (same : first ++ firstRest = second ++ secondRest)
    (firstPasses : ∀ item ∈ first, test item) (secondPasses : ∀ item ∈ second, test item)
    (firstStops : Stops test firstRest) (secondStops : Stops test secondRest) :
    first = second ∧ firstRest = secondRest := by
  constructor
  · calc
      first = (first ++ firstRest).takeWhile test :=
        (takeWhile_append_stop firstPasses firstStops).symm
      _ = (second ++ secondRest).takeWhile test := by rw [same]
      _ = second := takeWhile_append_stop secondPasses secondStops
  · calc
      firstRest = (first ++ firstRest).dropWhile test :=
        (dropWhile_append_stop firstPasses firstStops).symm
      _ = (second ++ secondRest).dropWhile test := by rw [same]
      _ = secondRest := dropWhile_append_stop secondPasses secondStops

theorem dropEndWhile_append_of_all (items : List α) {ended : List α}
    (passes : ∀ item ∈ ended, test item) :
    dropEndWhile test (items ++ ended) = dropEndWhile test items := by
  have reversed : ∀ item ∈ ended.reverse, test item := by
    intro item member
    exact passes item (List.mem_reverse.mp member)
  rw [dropEndWhile, dropEndWhile, List.reverse_append, List.dropWhile_append_of_pos reversed]

theorem dropEndWhile_eq_self {items : List α}
    (fails : ∀ last ∈ items.getLast?, test last = false) : dropEndWhile test items = items := by
  rcases List.eq_nil_or_concat items with rfl | ⟨front, last, rfl⟩
  · rfl
  · rw [List.concat_eq_append] at fails ⊢
    rw [dropEndWhile_concat, fails last List.getLast?_concat]
    rfl

theorem exists_dropEndWhile (test : α → Bool) (items : List α) :
    ∃ ended, items = dropEndWhile test items ++ ended ∧ (∀ item ∈ ended, test item) ∧
      ∀ last ∈ (dropEndWhile test items).getLast?, test last = false := by
  refine ⟨(items.reverse.takeWhile test).reverse, ?_, ?_, ?_⟩
  · rw [dropEndWhile, ← List.reverse_append, List.takeWhile_append_dropWhile, List.reverse_reverse]
  · intro item member
    exact List.mem_takeWhile_imp (List.mem_reverse.mp member)
  · intro last isLast
    rw [dropEndWhile, List.getLast?_reverse] at isLast
    exact Bool.eq_false_iff.mpr fun passes => by
      have fails := List.head?_dropWhile_not test items.reverse
      rw [isLast] at fails
      simp [passes] at fails

theorem dropEndWhile_append (kept items : List α)
    (fails : ∀ last ∈ kept.getLast?, test last = false) :
    dropEndWhile test (kept ++ items) = kept ++ dropEndWhile test items := by
  obtain ⟨ended, same, passes, stays⟩ := exists_dropEndWhile test items
  calc
    dropEndWhile test (kept ++ items) =
        dropEndWhile test (kept ++ dropEndWhile test items ++ ended) := by
      rw [List.append_assoc, ← same]
    _ = dropEndWhile test (kept ++ dropEndWhile test items) := dropEndWhile_append_of_all _ passes
    _ = kept ++ dropEndWhile test items := by
      apply dropEndWhile_eq_self
      intro last isLast
      rw [List.getLast?_append] at isLast
      cases isLeft : (dropEndWhile test items).getLast? with
      | none => exact fails last (by simpa [isLeft] using isLast)
      | some other => exact stays last (by simpa [isLeft] using isLast)

theorem dropEndWhile_append_of_mem (kept : List α) {items : List α} {item : α}
    (member : item ∈ items) (fails : test item = false) :
    dropEndWhile test (kept ++ items) = kept ++ dropEndWhile test items := by
  obtain ⟨front, ended, rfl⟩ := List.append_of_mem member
  have stays (before : List α) : dropEndWhile test (before ++ [item] ++ ended) =
      before ++ [item] ++ dropEndWhile test ended :=
    dropEndWhile_append _ ended (by simpa using fails)
  have outer := stays (kept ++ front)
  have inner := stays front
  simp only [List.append_assoc, List.singleton_append] at outer inner
  rw [outer, inner]

theorem mem_of_mem_dropEndWhile {items : List α} {item : α}
    (member : item ∈ dropEndWhile test items) : item ∈ items := by
  obtain ⟨ended, same, -, -⟩ := exists_dropEndWhile test items
  rw [same]
  exact List.mem_append_left ended member

theorem byteLength_append (first second : Text) :
    byteLength (first ++ second) = byteLength first + byteLength second := by
  induction first with
  | nil => simp [byteLength]
  | cons head tail ih => simp only [List.cons_append, byteLength, ih, Nat.add_assoc]

theorem isBlank_of_isLineEnd {c : Char} (ends : isLineEnd c = true) : isBlank c = true := by
  simp only [isLineEnd, Bool.or_eq_true, decide_eq_true_eq] at ends
  rcases ends with rfl | rfl <;> decide

theorem isLineEnd_eq_false {c : Char} (solid : isBlank c = false) : isLineEnd c = false := by
  rw [Bool.eq_false_iff] at solid ⊢
  exact mt isBlank_of_isLineEnd solid

theorem trimEnd_append_blanks (text : Text) {blanks : Text} (blank : ∀ c ∈ blanks, isBlank c) :
    trimEnd (text ++ blanks) = trimEnd text :=
  dropEndWhile_append_of_all text blank

theorem trimEnd_trimEnd (text : Text) : trimEnd (trimEnd text) = trimEnd text := by
  obtain ⟨_, -, -, fails⟩ := exists_dropEndWhile isBlank text
  exact dropEndWhile_eq_self fails

theorem head?_trimEnd {text : Text} {first : Char} (starts : text.head? = some first)
    (solid : isBlank first = false) : (trimEnd text).head? = some first := by
  obtain ⟨rest, rfl⟩ := List.head?_eq_some_iff.mp starts
  have kept := dropEndWhile_append [first] rest (by simpa using solid)
  rw [trimEnd, ← List.singleton_append, kept]
  rfl

theorem isBlank_getLast?_of_trimEnd {text : Text} (trimmed : trimEnd text = text) {last : Char}
    (isLast : text.getLast? = some last) : isBlank last = false := by
  obtain ⟨_, -, -, fails⟩ := exists_dropEndWhile isBlank text
  rw [← trimEnd, trimmed] at fails
  exact fails last isLast

theorem exists_solid_of_suffix {text after : Text} (trimmed : trimEnd text = text)
    (suffix : after <:+ text) (nonempty : after ≠ []) : ∃ c ∈ after, isBlank c = false := by
  obtain ⟨before, rfl⟩ := suffix
  obtain ⟨last, isLast⟩ := Option.isSome_iff_exists.mp (List.getLast?_isSome.mpr nonempty)
  refine ⟨last, List.mem_of_getLast? isLast, isBlank_getLast?_of_trimEnd trimmed ?_⟩
  rw [List.getLast?_append, isLast, Option.some_or]

end Typeset.Text
