import Mathlib.Data.List.Induction
import Typeset.Proofs.Path.Names

/-!
Where a path leads, and where its resolution leads.  Folding drops a `..` that has nothing to take
back, and a place keeps it unless the path starts at the root; so a path is folded to its place only
if it does not lead out of the directory it is seen from.
-/

namespace Typeset.Path

/-- Reads one name onto a place, innermost name first.  There is no way up from the root. -/
def placeName (rooted : Bool) (kept : List Text) (name : Text) : List Text :=
  if name = up then
    match kept with
    | [] => if rooted then [] else [up]
    | last :: outer => if last = up then up :: last :: outer else outer
  else name :: kept

def place (path : Path) : Bool × List Text :=
  (isAbsolute path, ((names path).foldl (placeName (isAbsolute path)) []).reverse)

variable {path base : Path} {list kept : List Text} {name : Text}

theorem foldNames_concat (list : List Text) (name : Text) :
    foldNames (list ++ [name]) = (foldName (foldNames list).reverse name).reverse := by
  simp [foldNames, List.foldl_append]

theorem mem_foldNames (member : name ∈ foldNames list) : name ∈ list ∧ name ≠ up := by
  induction list using List.reverseRecOn with
  | nil => cases member
  | append_singleton list last ih =>
      rw [foldNames_concat, List.mem_reverse, foldName] at member
      split at member
      · obtain ⟨among, differs⟩ := ih (List.mem_reverse.mp (List.mem_of_mem_tail member))
        exact ⟨List.mem_append_left _ among, differs⟩
      · next differs =>
          rcases List.mem_cons.mp member with rfl | earlier
          · exact ⟨by simp, differs⟩
          · obtain ⟨among, differs⟩ := ih (List.mem_reverse.mp earlier)
            exact ⟨List.mem_append_left _ among, differs⟩

theorem placeName_of_ne_up (rooted : Bool) (differs : name ≠ up) (kept : List Text) :
    placeName rooted kept name = name :: kept := by
  simp [placeName, differs]

theorem foldl_placeName_eq (rooted : Bool) (direct : up ∉ list) (kept : List Text) :
    list.foldl (placeName rooted) kept = list.reverse ++ kept := by
  induction list generalizing kept with
  | nil => rfl
  | cons name list ih =>
      rw [List.mem_cons, not_or] at direct
      rw [List.foldl_cons, placeName_of_ne_up rooted (Ne.symm direct.1), ih direct.2]
      simp

/-- Names that lead to a place without leading up from the start are folded as that place, and take
nothing back from what was kept before. -/
theorem foldl_foldName_eq (direct : up ∉ list.foldl (placeName false) []) (kept : List Text) :
    list.foldl foldName kept = list.foldl (placeName false) [] ++ kept := by
  induction list using List.reverseRecOn with
  | nil => rfl
  | append_singleton list last ih =>
      simp only [List.foldl_append, List.foldl_cons, List.foldl_nil] at direct ⊢
      generalize list.foldl (placeName false) [] = placed at direct ih ⊢
      by_cases leadsUp : last = up
      · subst leadsUp
        cases placed with
        | nil => simp [placeName] at direct
        | cons inner outer =>
            by_cases alreadyUp : inner = up
            · simp [placeName, alreadyUp] at direct
            · simp only [placeName, alreadyUp, if_true, if_false] at direct ⊢
              rw [ih (by simp [Ne.symm alreadyUp, direct])]
              simp [foldName]
      · rw [placeName_of_ne_up false leadsUp] at direct ⊢
        rw [ih fun member => direct (List.mem_cons_of_mem last member)]
        simp [foldName, leadsUp]

theorem up_mem_placeName (member : up ∈ kept) (name : Text) : up ∈ placeName false kept name := by
  by_cases leadsUp : name = up
  · cases kept with
    | nil => cases member
    | cons inner outer =>
        by_cases alreadyUp : inner = up
        · simp [placeName, leadsUp, alreadyUp]
        · have outside : up ∈ outer := (List.mem_cons.mp member).resolve_left (Ne.symm alreadyUp)
          simp [placeName, leadsUp, alreadyUp, outside]
  · rw [placeName_of_ne_up false leadsUp]
    exact List.mem_cons_of_mem name member

theorem isAbsolute_ofNames (rooted : Bool) (isNames : ∀ name ∈ list, IsName name) :
    isAbsolute (ofNames rooted list) = rooted := by
  cases rooted with
  | true => rfl
  | false =>
      cases list with
      | nil => rfl
      | cons name list =>
          have isName := isNames name List.mem_cons_self
          have nonempty : name ≠ [] := by
            rintro rfl
            exact absurd isName.leads (by decide)
          have starts : name <+: ofNames false (name :: list) := by
            cases list with
            | nil => exact List.prefix_rfl
            | cons next others =>
                simp only [ofNames, Text.joinWith, List.append_assoc]
                exact List.prefix_append _ _
          rw [← isAbsolute_of_shorter starts nonempty]
          obtain ⟨first, others, rfl⟩ := List.exists_cons_of_ne_nil nonempty
          have differs : first ≠ '/' := fun same => isName.whole (by simp [same])
          simp [isAbsolute, differs]

theorem place_fold (path : Path) : place (fold path) = (isAbsolute path, foldNames (names path)) := by
  have isNames : ∀ name ∈ foldNames (names path), IsName name := fun name member =>
    isName_of_mem_names (mem_foldNames member).1
  have direct : up ∉ foldNames (names path) := fun member => (mem_foldNames member).2 rfl
  rw [place, fold, isAbsolute_ofNames _ isNames, names_ofNames _ isNames,
    foldl_placeName_eq _ direct, List.append_nil, List.reverse_reverse]

/-- Seen once more from its own directory, a path leads to the same place only if it leads to a name
and that directory is the one it is seen from. -/
theorem place_fold_join_iff (relative : isAbsolute path = false) (nonempty : base ≠ [])
    (within : names path = names base ++ [name]) :
    place (fold (join base path)) = place path ↔ name ≠ up ∧ place base = (false, []) := by
  rw [place_fold, isAbsolute_join relative nonempty, names_join relative, within, place, relative,
    within, place]
  cases isAbsolute base with
  | true => simp
  | false =>
      have direct : up ∉ foldNames (names base ++ (names base ++ [name])) := fun member =>
        (mem_foldNames member).2 rfl
      simp only [foldNames, List.foldl_append, List.foldl_cons, List.foldl_nil, List.mem_reverse]
        at direct
      simp only [Prod.mk.injEq, true_and, List.reverse_eq_nil_iff, foldNames, List.foldl_append,
        List.foldl_cons, List.foldl_nil, List.reverse_inj]
      generalize placed : (names base).foldl (placeName false) [] = kept
      by_cases leadsOut : up ∈ kept
      · -- the place leads up from the start, and a folded path never does
        constructor
        · intro same
          rw [same] at direct
          exact absurd (up_mem_placeName leadsOut name) direct
        · rintro ⟨-, rfl⟩
          cases leadsOut
      · have folded (outer : List Text) : (names base).foldl foldName outer = kept ++ outer := by
          rw [foldl_foldName_eq (by rwa [placed]), placed]
        rw [folded [], folded, List.append_nil]
        by_cases leadsUp : name = up
        · subst leadsUp
          cases kept with
          | nil => simp [foldName, placeName]
          | cons inner outer =>
              have differs : inner ≠ up := fun same => leadsOut (by simp [same])
              simp [foldName, placeName, differs]
        · simp [foldName, placeName_of_ne_up false leadsUp, leadsUp]

theorem fileName?_ne_none_iff (within : names path = list ++ [name]) :
    fileName? path ≠ none ↔ name ≠ up := by
  have last : (names path).getLast? = some name := by rw [within, List.getLast?_concat]
  constructor
  · intro isSome
    obtain ⟨found, isFile⟩ := Option.ne_none_iff_exists'.mp isSome
    obtain ⟨same, differs⟩ := fileName?_eq_some_iff.mp isFile
    obtain rfl : name = found := Option.some.inj (last.symm.trans same)
    exact differs
  · intro differs
    rw [fileName?_eq_some_iff.mpr ⟨last, differs⟩]
    simp

theorem place_resolveFrom_iff (nonempty : base ≠ []) (within : names path = names base ++ [name]) :
    place (resolveFrom (some base) path) = place path ↔
      path.head? ≠ some '.' ∨ (fileName? path ≠ none ∧ place base = (false, [])) := by
  by_cases dotted : path.head? = some '.'
  · obtain ⟨rest, rfl⟩ := List.head?_eq_some_iff.mp dotted
    rw [fileName?_ne_none_iff within]
    simpa [resolveFrom] using place_fold_join_iff rfl nonempty within
  · have same : resolveFrom (some base) path = path := by
      unfold resolveFrom
      split
      · simp at dotted
      · rfl
    simp [same, dotted]

end Typeset.Path
