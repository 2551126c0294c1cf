import Typeset.Text.Basic

/-!
Where a text stands in another: at its start, or anywhere in it.  A text that stands between others
cuts them into pieces, which are joined to the text again.
-/

namespace Typeset.Text

theorem isSome_after?_iff {sought text : Text} : (after? sought text).isSome ↔ sought <+: text := by
  constructor
  · intro found
    obtain ⟨rest, starts⟩ := Option.isSome_iff_exists.mp found
    exact ⟨rest, (eq_append_of_after? starts).symm⟩
  · rintro ⟨rest, rfl⟩
    simp

theorem isSome_afterLast?_iff {sought text : Text} :
    (afterLast? sought text).isSome ↔ sought <:+: text := by
  induction text with
  | nil => rw [afterLast?, isSome_after?_iff, List.prefix_nil, List.infix_nil]
  | cons head tail ih =>
      rw [afterLast?, Option.isSome_or, Bool.or_eq_true, ih, isSome_after?_iff,
        List.infix_cons_iff, or_comm]

theorem of_afterLast? {sought text rest : Text} (nonempty : sought ≠ [])
    (read : afterLast? sought text = some rest) :
    (∃ before, text = before ++ (sought ++ rest)) ∧ ¬sought <:+: rest := by
  obtain ⟨first, others, rfl⟩ := List.exists_cons_of_ne_nil nonempty
  induction text with
  | nil => cases read
  | cons head tail ih =>
      rw [afterLast?, Option.or_eq_some_iff] at read
      rcases read with later | ⟨none, here⟩
      · obtain ⟨⟨before, split⟩, last⟩ := ih later
        exact ⟨⟨head :: before, congrArg (head :: ·) split⟩, last⟩
      · have split := eq_append_of_after? here
        refine ⟨⟨[], split⟩, fun again => ?_⟩
        have behind : rest <:+ tail := ⟨others, (List.cons.inj split).2.symm⟩
        have inTail : (afterLast? (first :: others) tail).isSome :=
          isSome_afterLast?_iff.mpr (again.trans behind.isInfix)
        rw [none] at inTail
        cases inTail

theorem exists_last_of_mem {c : Char} {text : Text} (member : c ∈ text) :
    ∃ before behind, text = before ++ c :: behind ∧ c ∉ behind := by
  obtain ⟨behind, before, turned, absent⟩ :=
    List.eq_append_cons_of_mem (List.mem_reverse.mpr member)
  refine ⟨before.reverse, behind.reverse, ?_, by simpa using absent⟩
  calc
    text = text.reverse.reverse := (List.reverse_reverse text).symm
    _ = before.reverse ++ c :: behind.reverse := by simp [turned]

theorem exists_behind {c : Char} {others text front rest : Text} (absent : c ∉ others)
    (split : others ++ text = front ++ c :: rest) :
    ∃ later, front = others ++ later ∧ text = later ++ c :: rest := by
  rcases List.append_eq_append_iff.mp split with ⟨later, longer, same⟩ | ⟨middle, longer, same⟩
  · exact ⟨later, longer, same⟩
  · cases middle with
    | nil => exact ⟨[], by simpa using longer.symm, by simpa using same.symm⟩
    | cons first middle =>
        obtain ⟨rfl, -⟩ := List.cons.inj same
        exact absurd (longer ▸ List.mem_append_right front List.mem_cons_self) absent

theorem contains_iff {sought text : Text} : contains sought text = true ↔ sought <:+: text := by
  rw [contains]
  induction text with
  | nil =>
      rw [splitAt?, Option.isSome_map, isSome_after?_iff, List.prefix_nil, List.infix_nil]
  | cons head tail ih =>
      rw [splitAt?, List.infix_cons_iff, ← isSome_after?_iff]
      cases after? sought (head :: tail) with
      | some rest => simp
      | none => simpa using ih

variable {separator : Char} {text : Text} {pieces : List Text}

theorem splitOn_eq (separator : Char) (text : Text) :
    splitOn separator text = List.splitOn separator text := by
  induction text with
  | nil => rfl
  | cons head tail ih =>
      rw [splitOn, List.splitOn_cons_eq_if_modifyHead, ih]
      by_cases same : head = separator
      · simp [same]
      · obtain ⟨piece, others, split⟩ :=
          List.exists_cons_of_ne_nil (List.splitOn_ne_nil separator tail)
        simp [same, split]

theorem joinWith_eq (separator : Text) (pieces : List Text) :
    joinWith separator pieces = separator.intercalate pieces := by
  induction pieces with
  | nil => rfl
  | cons piece pieces ih =>
      cases pieces with
      | nil => simp [joinWith]
      | cons next others => rw [joinWith, List.intercalate_cons_cons, ih]

theorem splitOn_append (separator : Char) (before behind : Text) :
    splitOn separator (before ++ separator :: behind) =
      splitOn separator before ++ splitOn separator behind := by
  simp only [splitOn_eq, List.splitOn_append_cons_self]

theorem splitOn_of_not_mem (whole : separator ∉ text) : splitOn separator text = [text] := by
  rw [splitOn_eq, List.splitOn_eq_singleton whole]

theorem joinWith_splitOn (separator : Char) (text : Text) :
    joinWith [separator] (splitOn separator text) = text := by
  rw [splitOn_eq, joinWith_eq, List.intercalate_splitOn]

theorem splitOn_joinWith (nonempty : pieces ≠ []) (whole : ∀ piece ∈ pieces, separator ∉ piece) :
    splitOn separator (joinWith [separator] pieces) = pieces := by
  rw [splitOn_eq, joinWith_eq, List.splitOn_intercalate separator whole nonempty]

theorem joinWith_append (separator : Text) {first second : List Text} (left : first ≠ [])
    (right : second ≠ []) :
    joinWith separator (first ++ second) =
      joinWith separator first ++ separator ++ joinWith separator second := by
  simp only [joinWith_eq]
  induction first with
  | nil => exact absurd rfl left
  | cons piece first ih =>
      cases first with
      | nil => simp [List.intercalate_cons_of_ne_nil right]
      | cons next others =>
          have inner := ih (by simp)
          simp only [List.cons_append, List.intercalate_cons_cons, List.append_assoc] at inner ⊢
          rw [inner]

theorem ne_nil_of_getLast?_splitOn {piece : Text} (filled : text ≠ [])
    (goesOn : text.getLast? ≠ some separator)
    (last : (splitOn separator text).getLast? = some piece) : piece ≠ [] := by
  rintro rfl
  obtain ⟨front, split⟩ := List.getLast?_eq_some_iff.mp last
  have joined := joinWith_splitOn separator text
  rw [split] at joined
  cases front with
  | nil => exact filled joined.symm
  | cons first front =>
      rw [joinWith_append [separator] (List.cons_ne_nil first front) (List.cons_ne_nil [] [])]
        at joined
      refine goesOn ?_
      rw [← joined, joinWith, List.append_nil, List.getLast?_concat]

theorem not_mem_of_mem_splitOn {piece : Text} (member : piece ∈ splitOn separator text) :
    separator ∉ piece := by
  induction text generalizing piece with
  | nil =>
      obtain rfl := List.mem_singleton.mp member
      exact List.not_mem_nil
  | cons head tail ih =>
      rw [splitOn] at member
      split at member
      · next same =>
          rcases List.mem_cons.mp member with rfl | later
          · exact List.not_mem_nil
          · exact ih later
      · next differs =>
          split at member
          · next empty => exact absurd empty (splitOn_ne_nil separator tail)
          · next first others split =>
              rcases List.mem_cons.mp member with rfl | later
              · have inner : separator ∉ first := ih (split ▸ List.mem_cons_self)
                simp [Ne.symm differs, inner]
              · exact ih (split ▸ List.mem_cons_of_mem first later)

end Typeset.Text
