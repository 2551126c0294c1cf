import Mathlib.Data.List.Nodup

/-!
Lists of pairs in which no key stands twice.  What is looked up does not depend on their order.
-/

namespace Typeset.Keyed

variable {α β : Type} [BEq α] [LawfulBEq α] {pairs others : List (α × β)} {key : α} {item : β}

theorem lookup_eq_none_iff : pairs.lookup key = none ↔ key ∉ pairs.map Prod.fst := by
  rw [List.lookup_eq_none_iff, List.mem_map]
  constructor
  · rintro absent ⟨pair, among, same⟩
    exact bne_iff_ne.mp (absent pair among) same.symm
  · intro absent pair among
    exact bne_iff_ne.mpr fun same => absent ⟨pair, among, same.symm⟩

theorem lookup_eq_some_iff (distinct : (pairs.map Prod.fst).Nodup) :
    pairs.lookup key = some item ↔ (key, item) ∈ pairs := by
  induction pairs with
  | nil => simp
  | cons pair pairs ih =>
      obtain ⟨first, value⟩ := pair
      obtain ⟨fresh, rest⟩ := List.nodup_cons.mp distinct
      by_cases same : key = first
      · subst same
        have absent : (key, item) ∉ pairs := fun among => fresh (List.mem_map.mpr ⟨_, among, rfl⟩)
        simp [absent, eq_comm]
      · rw [List.lookup_cons, beq_false_of_ne same, List.mem_cons, ih rest]
        simp [same]

theorem lookup_perm (distinct : (pairs.map Prod.fst).Nodup) (same : pairs.Perm others) (key : α) :
    pairs.lookup key = others.lookup key := by
  have othersDistinct : (others.map Prod.fst).Nodup := (same.map Prod.fst).nodup_iff.mp distinct
  ext item
  rw [lookup_eq_some_iff distinct, lookup_eq_some_iff othersDistinct, same.mem_iff]

theorem lookup_filter (kept : α → Bool) (pairs : List (α × β)) (key : α) :
    (pairs.filter fun pair => kept pair.1).lookup key =
      if kept key then pairs.lookup key else none := by
  induction pairs with
  | nil => simp
  | cons pair pairs ih =>
      obtain ⟨first, value⟩ := pair
      by_cases same : key = first
      · subst same
        by_cases keeps : kept key = true
        · simp [keeps]
        · simp [keeps, ih]
      · have skipped : (key == first) = false := beq_false_of_ne same
        by_cases keeps : kept first = true
        · simp [keeps, List.lookup_cons, skipped, ih]
        · simp [keeps, List.lookup_cons, skipped, ih]

theorem lookup_zip {keys : List α} {items : List β} {place : Nat} (distinct : keys.Nodup)
    (stands : keys[place]? = some key) : (keys.zip items).lookup key = items[place]? := by
  induction keys generalizing place items with
  | nil => cases stands
  | cons first keys ih =>
      obtain ⟨fresh, others⟩ := List.nodup_cons.mp distinct
      cases items with
      | nil => rfl
      | cons item items =>
          cases place with
          | zero =>
              cases stands
              exact List.lookup_cons_self
          | succ place =>
              rw [List.getElem?_cons_succ] at stands
              have differs : key ≠ first := fun same => fresh (same ▸ List.mem_of_getElem? stands)
              rw [List.zip_cons_cons, List.lookup_cons, beq_false_of_ne differs,
                List.getElem?_cons_succ]
              exact ih others stands

end Typeset.Keyed
