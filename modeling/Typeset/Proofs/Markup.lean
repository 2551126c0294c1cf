import Typeset.Markup
import Typeset.Proofs.Text.Search

/-!
Escaped text holds no markup, and it can be read back: the entities in it are the only places that
start with an ampersand, and no entity starts another.
-/

namespace Typeset.Markup

/-- The characters that stand for themselves nowhere, each with the entity it is written as. -/
structure EntityTable where
  entities : List (Char × Text)
  ampersand : '&' ∈ entities.map Prod.fst
  opened : ∀ entry ∈ entities, entry.2.head? = some '&'
  plain : ∀ entry ∈ entities, ∀ c ∈ entry.2.tail, c ∉ entities.map Prod.fst
  prefixFree : ∀ first ∈ entities, ∀ second ∈ entities, first.2 <+: second.2 → first = second

namespace EntityTable

def running : EntityTable where
  entities := [('&', "&amp;"), ('<', "&lt;"), ('>', "&gt;")]
  ampersand := by decide
  opened := by decide
  plain := by simp
  prefixFree := by decide

def quoted : EntityTable where
  entities := ('"', "&quot;") :: running.entities
  ampersand := by decide
  opened := by decide
  plain := by simp [running]
  prefixFree := by decide

variable (table : EntityTable) {content written rest : Text} {entry : Char × Text} {c : Char}

def write (content : Text) : Text :=
  content.flatMap fun c => (table.entities.lookup c).getD [c]

def entityAt? (written : Text) : Option (Char × Text) :=
  table.entities.find? fun entry => entry.2.isPrefixOf written

def undo (written : Text) : Text :=
  go 0 written
where
  go : Nat → Text → Text
    | _, [] => []
    | covered + 1, _ :: tail => go covered tail
    | 0, head :: tail =>
        match table.entityAt? (head :: tail) with
        | some (c, entity) => c :: go entity.tail.length tail
        | none => head :: go 0 tail

/-- How a text may be written so that a reader finds no markup in it and reads it back. -/
structure Written (content written : Text) : Prop where
  noMarkup : ∀ c ∈ table.entities.map Prod.fst, c ≠ '&' → c ∉ written
  entityAt : ∀ before rest, written = before ++ '&' :: rest →
    ∃ entry ∈ table.entities, entry.2 <+: '&' :: rest
  undone : table.undo written = content

theorem exists_name (member : entry ∈ table.entities) :
    ∃ name, entry.2 = '&' :: name ∧ '&' ∉ name := by
  obtain ⟨name, same⟩ := List.head?_eq_some_iff.mp (table.opened entry member)
  refine ⟨name, same, fun inside => ?_⟩
  exact table.plain entry member '&' (by rw [same]; exact inside) table.ampersand

theorem piece_cases (c : Char) :
    (∃ entity, (c, entity) ∈ table.entities ∧ (table.entities.lookup c).getD [c] = entity) ∨
      (c ∉ table.entities.map Prod.fst ∧ (table.entities.lookup c).getD [c] = [c]) := by
  cases found : table.entities.lookup c with
  | some entity =>
      obtain ⟨before, behind, same, -⟩ := List.lookup_eq_some_iff.mp found
      exact .inl ⟨entity, by simp [same], rfl⟩
  | none =>
      refine .inr ⟨fun special => ?_, rfl⟩
      obtain ⟨entry, member, rfl⟩ := List.mem_map.mp special
      simpa using List.lookup_eq_none_iff.mp found entry member

theorem entityAt?_entity (member : entry ∈ table.entities) (rest : Text) :
    table.entityAt? (entry.2 ++ rest) = some entry := by
  cases read : table.entityAt? (entry.2 ++ rest) with
  | none =>
      have nowhere := List.find?_eq_none.mp read entry member
      exact absurd (List.isPrefixOf_iff_prefix.mpr (List.prefix_append entry.2 rest)) nowhere
  | some found =>
      have among : found ∈ table.entities := List.mem_of_find?_eq_some read
      have starts : found.2.isPrefixOf (entry.2 ++ rest) = true := by
        rw [entityAt?] at read
        simpa using List.find?_some read
      -- two entities at the start of one text: one of them starts the other
      rcases List.prefix_or_prefix_of_prefix (List.isPrefixOf_iff_prefix.mp starts)
          (List.prefix_append entry.2 rest) with
        shorter | longer
      · rw [table.prefixFree found among entry member shorter]
      · rw [table.prefixFree entry member found among longer]

theorem entityAt?_plain (noAmpersand : c ≠ '&') (rest : Text) :
    table.entityAt? (c :: rest) = none := by
  refine List.find?_eq_none.mpr fun entry member starts => ?_
  obtain ⟨name, same, -⟩ := table.exists_name member
  rw [same, List.isPrefixOf_iff_prefix, List.cons_prefix_cons] at starts
  exact noAmpersand starts.1.symm

theorem undo_go (covered : Nat) (written : Text) :
    undo.go table covered written = table.undo (written.drop covered) := by
  induction written generalizing covered with
  | nil => cases covered <;> rfl
  | cons head tail ih =>
      cases covered with
      | zero => rfl
      | succ covered => exact ih covered

theorem undo_entity (member : entry ∈ table.entities) (rest : Text) :
    table.undo (entry.2 ++ rest) = entry.1 :: table.undo rest := by
  obtain ⟨name, same, -⟩ := table.exists_name member
  have read := table.entityAt?_entity member rest
  rw [same, List.cons_append] at read ⊢
  simp only [undo, undo.go, read]
  rw [undo_go, same, List.tail_cons, List.drop_left]
  rfl

theorem undo_plain (noAmpersand : c ≠ '&') (rest : Text) :
    table.undo (c :: rest) = c :: table.undo rest := by
  simp only [undo, undo.go, table.entityAt?_plain noAmpersand]

variable {table}

namespace Written

theorem unique {first second : Text} (isFirst : table.Written first written)
    (isSecond : table.Written second written) : first = second :=
  isFirst.undone.symm.trans isSecond.undone

theorem nil : table.Written [] [] where
  noMarkup := by simp
  entityAt := by simp
  undone := rfl

theorem plain (isWritten : table.Written content written)
    (ordinary : c ∉ table.entities.map Prod.fst) : table.Written (c :: content) (c :: written) where
  noMarkup other special noAmpersand member := by
    rcases List.mem_cons.mp member with rfl | later
    · exact ordinary special
    · exact isWritten.noMarkup other special noAmpersand later
  entityAt before rest same := by
    cases before with
    | nil =>
        cases same
        exact absurd table.ampersand ordinary
    | cons first before => exact isWritten.entityAt before rest (List.cons.inj same).2
  undone := by
    have noAmpersand : c ≠ '&' := fun isAmpersand => ordinary (isAmpersand ▸ table.ampersand)
    rw [undo_plain table noAmpersand, isWritten.undone]

theorem entity (isWritten : table.Written content written) (member : entry ∈ table.entities) :
    table.Written (entry.1 :: content) (entry.2 ++ written) where
  noMarkup other special noAmpersand among := by
    rcases List.mem_append.mp among with inside | later
    · obtain ⟨name, same, -⟩ := table.exists_name member
      rw [same] at inside
      rcases List.mem_cons.mp inside with isAmpersand | named
      · exact noAmpersand isAmpersand
      · exact table.plain entry member other (by rw [same]; exact named) special
    · exact isWritten.noMarkup other special noAmpersand later
  entityAt before rest same := by
    obtain ⟨name, isEntity, noAmpersand⟩ := table.exists_name member
    cases before with
    | nil => exact ⟨entry, member, ⟨written, same⟩⟩
    | cons first before =>
        rw [isEntity, List.cons_append, List.cons_append] at same
        -- the ampersand found stands behind the name, which has none
        obtain ⟨between, -, behind⟩ := Text.exists_behind noAmpersand (List.cons.inj same).2
        exact isWritten.entityAt between rest behind
  undone := by rw [undo_entity table member, isWritten.undone]

theorem write (content : Text) : table.Written content (table.write content) := by
  induction content with
  | nil => exact .nil
  | cons c content ih =>
      rw [EntityTable.write, List.flatMap_cons]
      rcases table.piece_cases c with ⟨entity, member, piece⟩ | ⟨ordinary, piece⟩
      · rw [piece]
        exact ih.entity member
      · rw [piece]
        exact ih.plain ordinary

end Written

end EntityTable

theorem lookup_running (c : Char) : EntityTable.running.entities.lookup c = entity? c := by
  unfold entity?
  split
  · rfl
  · rfl
  · rfl
  · next noAmpersand noLess noGreater =>
      refine List.lookup_eq_none_iff.mpr ?_
      simpa [EntityTable.running] using ⟨noAmpersand, noLess, noGreater⟩

theorem lookup_quoted (c : Char) : EntityTable.quoted.entities.lookup c = attributeEntity? c := by
  unfold attributeEntity?
  split
  · rfl
  · next noQuote =>
      have other : (c == '"') = false := beq_false_of_ne noQuote
      rw [← lookup_running, EntityTable.quoted, List.lookup_cons, other]

theorem escape_eq (content : Text) : escape content = EntityTable.running.write content := by
  simp only [escape, EntityTable.write, lookup_running]

theorem escapeAttribute_eq (content : Text) :
    escapeAttribute content = EntityTable.quoted.write content := by
  simp only [escapeAttribute, EntityTable.write, lookup_quoted]

end Typeset.Markup
