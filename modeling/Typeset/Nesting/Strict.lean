import Typeset.Nesting.Token

/-!
The strict reading of a line: only absolute paths name files, and each line stands for itself.
-/

namespace Typeset.FileToken.Strict

def leadingPair? (text : Text) : Option Text :=
  match text.dropWhile Text.isBlank with
  | '(' :: inner =>
      match inner.dropWhile isPathChar with
      | ')' :: rest => some rest
      | _ => none
  | _ => none

def leadingClose? (text : Text) : Option Text :=
  match text.dropWhile Text.isBlank with
  | ')' :: rest => some rest
  | _ => none

def absolutePath? : Text → Option (Text × Text)
  | '/' :: rest =>
      (shortestPath? (afterMarker? atOpening?) rest).map fun (path, rest) => ('/' :: path, rest)
  | _ => none

/-- The first token of a text, and the text after it.  What stands before an opened path is
skipped. -/
def next? (text : Text) : Option (FileToken × Text) :=
  match leadingPair? text with
  | some rest => some (.pair, rest)
  | none =>
      match leadingClose? text with
      | some rest => some (.closed, rest)
      | none => (firstOpening? absolutePath? text).map fun (path, rest) => (.opened path, rest)

theorem length_dropWhile_le (test : α → Bool) (items : List α) :
    (items.dropWhile test).length ≤ items.length :=
  (List.dropWhile_suffix test).length_le

theorem length_leadingPair? {text rest : Text} (h : leadingPair? text = some rest) :
    rest.length < text.length := by
  have outer := length_dropWhile_le Text.isBlank text
  simp only [leadingPair?] at h
  split at h
  · next inner start =>
      have within := length_dropWhile_le isPathChar inner
      rw [start] at outer
      split at h
      · next stop =>
          rw [stop] at within
          cases h
          simp only [List.length_cons] at outer within
          omega
      · simp at h
  · simp at h

theorem length_leadingClose? {text rest : Text} (h : leadingClose? text = some rest) :
    rest.length < text.length := by
  have outer := length_dropWhile_le Text.isBlank text
  simp only [leadingClose?] at h
  split at h
  · next start =>
      rw [start] at outer
      cases h
      exact outer
  · simp at h

theorem length_pageMarker? {text rest : Text} (h : pageMarker? text = some rest) :
    rest.length ≤ text.length := by
  have outer := length_dropWhile_le Text.isBlank text
  simp only [pageMarker?] at h
  split at h
  · next inner start =>
      have within := length_dropWhile_le Text.isDecimalDigit inner
      rw [start] at outer
      split at h
      · next stop =>
          rw [stop] at within
          cases h
          simp only [List.length_cons] at outer within
          omega
      · simp at h
  · simp at h

theorem length_atOpening? {text rest : Text} (h : atOpening? text = some rest) :
    rest.length ≤ text.length := by
  unfold atOpening? at h
  split at h <;> simp_all

theorem length_afterMarker? {text rest : Text} (h : afterMarker? atOpening? text = some rest) :
    rest.length ≤ text.length := by
  simp only [afterMarker?, Option.or_eq_some_iff, Option.bind_eq_some_iff] at h
  rcases h with ⟨middle, marker, stop⟩ | ⟨_, stop⟩
  · exact Nat.le_trans (length_atOpening? stop) (length_pageMarker? marker)
  · exact length_atOpening? stop

theorem length_shortestPath? {stop? : Text → Option Text}
    (shrinks : ∀ {text rest}, stop? text = some rest → rest.length ≤ text.length)
    {text path rest : Text} (h : shortestPath? stop? text = some (path, rest)) :
    rest.length ≤ text.length := by
  induction text generalizing path with
  | nil =>
      simp only [shortestPath?, Option.map_eq_some_iff, Prod.mk.injEq] at h
      obtain ⟨found, stopped, -, rfl⟩ := h
      exact shrinks stopped
  | cons head tail ih =>
      simp only [shortestPath?] at h
      split at h
      · next stopped =>
          cases h
          exact shrinks stopped
      · split at h
        · simp only [Option.map_eq_some_iff, Prod.mk.injEq, Prod.exists] at h
          obtain ⟨_, _, inner, -, rfl⟩ := h
          exact Nat.le_succ_of_le (ih inner)
        · simp at h

theorem length_absolutePath? {text path rest : Text}
    (h : absolutePath? text = some (path, rest)) : rest.length ≤ text.length := by
  unfold absolutePath? at h
  split at h
  · simp only [Option.map_eq_some_iff, Prod.mk.injEq, Prod.exists] at h
    obtain ⟨_, _, inner, -, rfl⟩ := h
    exact Nat.le_succ_of_le (length_shortestPath? length_afterMarker? inner)
  · simp at h

theorem length_firstOpening? {path? : Text → Option (Text × Text)}
    (shrinks : ∀ {text path rest}, path? text = some (path, rest) → rest.length ≤ text.length)
    {text path rest : Text} (h : firstOpening? path? text = some (path, rest)) :
    rest.length < text.length := by
  induction text with
  | nil => simp [firstOpening?] at h
  | cons head tail ih =>
      simp only [firstOpening?, Option.or_eq_some_iff] at h
      rcases h with found | ⟨_, later⟩
      · split at found
        · exact Nat.lt_succ_of_le (shrinks found)
        · simp at found
      · exact Nat.lt_succ_of_lt (ih later)

theorem length_next? {text rest : Text} {token : FileToken}
    (h : next? text = some (token, rest)) : rest.length < text.length := by
  simp only [next?] at h
  split at h
  · next pair =>
      cases h
      exact length_leadingPair? pair
  · split at h
    · next close =>
        cases h
        exact length_leadingClose? close
    · simp only [Option.map_eq_some_iff, Prod.mk.injEq, Prod.exists] at h
      obtain ⟨_, _, opening, -, rfl⟩ := h
      exact length_firstOpening? length_absolutePath? opening

def tokens (text : Text) : List FileToken :=
  match _found : next? text with
  | none => []
  | some (token, rest) => token :: tokens rest
termination_by text.length
decreasing_by exact length_next? _found

theorem tokens_of_next?_none {text : Text} (h : next? text = none) : tokens text = [] := by
  rw [tokens]
  split
  · rfl
  · next found => simp [h] at found

theorem tokens_of_next? {text rest : Text} {token : FileToken}
    (h : next? text = some (token, rest)) : tokens text = token :: tokens rest := by
  rw [tokens]
  split
  · next found => simp [h] at found
  · next found =>
      rw [h] at found
      cases found
      rfl

end Typeset.FileToken.Strict
