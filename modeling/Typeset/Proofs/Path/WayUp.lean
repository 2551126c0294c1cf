import Mathlib.Data.List.Infix
import Typeset.Proofs.Path.Place

/-!
Resolution against a directory that is itself seen from elsewhere.  There a path may lead up out of
where it is seen from.  Folding loses this way up, one `..` after the other, and keeps all the rest.
-/

namespace Typeset.Path

/-- Some beginning of the names leads up more often than down. -/
def Climbs (list : List Text) : Prop :=
  ∃ start, start <+: list ∧ start.length < 2 * start.count up

variable {path base : Path} {list : List Text} {name : Text}

theorem climbs_iff_mem_inits :
    Climbs list ↔ ∃ start ∈ list.inits, start.length < 2 * start.count up := by
  simp only [Climbs, List.mem_inits]

instance : DecidablePred Climbs :=
  fun _ => decidable_of_iff _ climbs_iff_mem_inits.symm

theorem climbs_concat_iff :
    Climbs (list ++ [name]) ↔
      Climbs list ∨ (list ++ [name]).length < 2 * (list ++ [name]).count up := by
  constructor
  · rintro ⟨start, begins, above⟩
    rcases List.prefix_concat_iff.mp begins with rfl | earlier
    · exact .inr above
    · exact .inl ⟨start, earlier, above⟩
  · rintro (⟨start, begins, above⟩ | above)
    · exact ⟨start, begins.trans (List.prefix_append _ _), above⟩
    · exact ⟨_, List.prefix_rfl, above⟩

theorem up_not_mem_foldl_foldName (list : List Text) : up ∉ list.foldl foldName [] := by
  intro member
  exact (mem_foldNames (List.mem_reverse.mpr member)).2 rfl

/-- One name read on both ways.  They part only where the name leads up and nothing is kept. -/
theorem placeName_append_ups {inner : List Text} (direct : up ∉ inner) (climbed : Nat)
    (name : Text) :
    placeName false (inner ++ List.replicate climbed up) name =
      foldName inner name ++
        List.replicate (if name = up ∧ inner = [] then climbed + 1 else climbed) up := by
  by_cases leadsUp : name = up
  · cases inner with
    | nil => cases climbed <;> simp [placeName, foldName, leadsUp, List.replicate_succ]
    | cons last outer =>
        have differs : last ≠ up := fun same => direct (by simp [same])
        simp [placeName, foldName, leadsUp, differs]
  · simp [placeName, foldName, leadsUp]

/-- The names that a place keeps are those of the folding, below as many `..` as there are ways up
that nothing takes back. -/
theorem exists_ups (list : List Text) :
    ∃ climbed,
      list.foldl (placeName false) [] = list.foldl foldName [] ++ List.replicate climbed up ∧
      (list.foldl foldName []).length + 2 * list.count up = list.length + climbed ∧
      (climbed = 0 ↔ ¬Climbs list) := by
  induction list using List.reverseRecOn with
  | nil =>
      refine ⟨0, rfl, rfl, iff_of_true rfl ?_⟩
      rintro ⟨start, begins, above⟩
      rw [List.prefix_nil.mp begins] at above
      exact absurd above (by decide)
  | append_singleton list name ih =>
      obtain ⟨climbed, placed, counted, level⟩ := ih
      have direct := up_not_mem_foldl_foldName list
      simp only [List.foldl_append, List.foldl_cons, List.foldl_nil, placed,
        placeName_append_ups direct, climbs_concat_iff, List.count_append, List.length_append,
        List.length_singleton, not_or, ← level]
      refine ⟨_, rfl, ?_⟩
      generalize list.foldl foldName [] = inner at counted
      by_cases leadsUp : name = up
      · cases inner with
        | nil =>
            simp only [leadsUp, foldName, List.count_singleton_self, List.length_nil, List.tail_nil,
              and_self, if_true] at counted ⊢
            omega
        | cons last outer =>
            simp only [leadsUp, foldName, List.count_singleton_self, List.length_cons,
              List.tail_cons, reduceCtorEq, and_false, if_true, if_false] at counted ⊢
            omega
      · simp only [leadsUp, foldName, List.count_singleton, beq_iff_eq, List.length_cons, false_and,
          if_false] at counted ⊢
        omega

theorem exists_place_eq (relative : isAbsolute path = false) :
    ∃ climbed, place path = (false, List.replicate climbed up ++ foldNames (names path)) ∧
      (climbed = 0 ↔ ¬Climbs (names path)) := by
  obtain ⟨climbed, placed, -, level⟩ := exists_ups (names path)
  refine ⟨climbed, ?_, level⟩
  rw [place, relative, placed, List.reverse_append, List.reverse_replicate, foldNames]

theorem dropWhile_foldNames (list : List Text) :
    (foldNames list).dropWhile (· = up) = foldNames list := by
  refine List.dropWhile_eq_self_iff.mpr fun nonempty leadsUp => ?_
  exact (mem_foldNames (List.getElem_mem nonempty)).2 (of_decide_eq_true leadsUp)

/-- Seen from a relative directory, a path that starts with a dot is resolved to the place that it
leads to, less the `..` that lead up out of where the directory is seen from.  So the place is kept
only if no beginning of the names leads up more often than down. -/
theorem relative_resolution_loses_way_up (relative : isAbsolute base = false)
    (dotted : path.head? = some '.') :
    let found := resolveFrom (some base) path
    place found = (false, (place (join base path)).2.dropWhile (· = up)) ∧
      (place found = place (join base path) ↔ ¬Climbs (names base ++ names path)) := by
  intro found
  obtain ⟨rest, rfl⟩ := List.head?_eq_some_iff.mp dotted
  have joined : isAbsolute (join base ('.' :: rest)) = false := by
    rcases eq_or_ne base [] with rfl | nonempty
    · rfl
    · rw [isAbsolute_join rfl nonempty, relative]
  have folded : place found = (false, foldNames (names (join base ('.' :: rest)))) := by
    rw [← joined]
    exact place_fold _
  obtain ⟨climbed, kept, level⟩ := exists_place_eq joined
  rw [folded, kept, ← names_join rfl, ← level]
  constructor
  · rw [List.dropWhile_append_of_pos (by simp), dropWhile_foldNames]
  · rw [Prod.mk.injEq, List.self_eq_append_left, List.replicate_eq_nil_iff]
    simp only [true_and]

/-- A directory beside the base is found from inside it, and from above one level too low. -/
theorem figures_are_found_beside_logs :
    place (resolveFrom (some "out/logs") "./../figures/./a.tex") =
        place (join "out/logs" "./../figures/./a.tex") ∧
      place (resolveFrom (some "../out/logs") "./../figures/./a.tex") =
        (false, [("out" : Text), ("figures" : Text), ("a.tex" : Text)]) := by
  obtain ⟨-, kept⟩ := @relative_resolution_loses_way_up "./../figures/./a.tex" "out/logs" rfl rfl
  obtain ⟨lost, -⟩ := @relative_resolution_loses_way_up "./../figures/./a.tex" "../out/logs" rfl rfl
  exact ⟨kept.mpr (by decide), lost.trans (by decide)⟩

/-- A directory beside the one that the base is seen from is taken for one below it. -/
theorem way_up_is_lost :
    isAbsolute ("../out" : Text) = false ∧
      resolveFrom (some "../out") "./a.tex" = ("out/a.tex" : Text) ∧
      place (resolveFrom (some "../out") "./a.tex") ≠ place (join "../out" "./a.tex") := by
  decide

end Typeset.Path
