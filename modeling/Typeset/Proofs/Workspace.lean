import Typeset.Proofs.Keyed
import Typeset.Proofs.Text.Encoding
import Typeset.Proofs.Text.Ends
import Typeset.Proofs.Text.Search
import Typeset.Workspace.Basic

/-!
A file that is written is read again.  Writing puts an entry where there is no directory, so the
directories that a path leads through stay, and the path leads to its place as before.
-/

namespace Typeset.Workspace

variable {workspace next : Workspace} {place target : List Text} {path : Path}

theorem entry?_put (outside : workspace.entry? place ≠ some .directory) (entry : Entry)
    (other : List Text) :
    entry? (workspace.put place entry) other =
      if other = place then some entry else workspace.entry? other := by
  by_cases same : other = place
  · subst same
    rw [Workspace.entry?] at outside ⊢
    split at outside
    · exact absurd rfl outside
    · next apart => rw [put, if_neg apart, List.lookup_cons, beq_self_eq_true, if_pos rfl]
  · have kept : (workspace.entries.filter fun pair => decide (pair.1 ≠ place)).lookup other =
        workspace.entries.lookup other := by
      rw [Keyed.lookup_filter (fun key => decide (key ≠ place)), if_pos (decide_eq_true same)]
    rw [if_neg same, Workspace.entry?, Workspace.entry?]
    refine if_congr Iff.rfl rfl ?_
    rw [put, List.lookup_cons, beq_false_of_ne same]
    exact kept

theorem isDirectory_put (outside : workspace.entry? place ≠ some .directory) (entry : Entry)
    {other : List Text} (isDirectory : workspace.entry? other = some .directory) :
    entry? (workspace.put place entry) other = some .directory := by
  have differs : other ≠ place := by
    rintro rfl
    exact outside isDirectory
  rw [entry?_put outside, if_neg differs, isDirectory]

theorem follow_append (place : List Text) (first second : List Text) :
    workspace.follow place (first ++ second) =
      (workspace.follow place first).bind fun middle => workspace.follow middle second := by
  induction first generalizing place with
  | nil => rfl
  | cons name names ih =>
      rw [List.cons_append, follow, follow]
      split
      · rfl
      · rfl
      · split
        · exact ih place
        split
        · exact ih place.dropLast
        split
        · rfl
        · exact ih (place ++ [name])

theorem follow_of_stays
    (stays : ∀ place, workspace.entry? place = some .directory →
      next.entry? place = some .directory)
    {names : List Text} (leads : workspace.follow place names = .ok target) :
    next.follow place names = .ok target := by
  induction names generalizing place with
  | nil => exact leads
  | cons name names ih =>
      rw [follow] at leads ⊢
      split at leads
      · cases leads
      · cases leads
      · next isDirectory =>
          rw [stays place isDirectory]
          dsimp only
          split at leads
          · next idle => rw [if_pos idle, ih leads]
          next leaving =>
          rw [if_neg leaving]
          split at leads
          · next up => rw [if_pos up, ih leads]
          next down =>
          rw [if_neg down]
          split at leads
          · cases leads
          · next fits => rw [if_neg fits, ih leads]

theorem isDirectory_of_follow_empty (leads : workspace.follow place [[]] = .ok target) :
    workspace.entry? place = some .directory ∧ target = place := by
  rw [follow] at leads
  split at leads
  · cases leads
  · cases leads
  · next isDirectory => exact ⟨isDirectory, (Except.ok.inj leads).symm⟩

theorem bind_eq_ok_iff {first : Except FileFault α} {second : α → Except FileFault β} {answer : β} :
    first >>= second = .ok answer ↔ ∃ middle, first = .ok middle ∧ second middle = .ok answer := by
  cases first with
  | error fault => exact ⟨nofun, fun ⟨_, answered, _⟩ => by cases answered⟩
  | ok middle =>
      constructor
      · intro answered
        exact ⟨middle, rfl, answered⟩
      · rintro ⟨_, ⟨⟩, answered⟩
        exact answered

theorem of_locateEntry {directory : List Text} {name : Text}
    (located : workspace.locateEntry path = .ok (directory, name))
    (unslashed : path.getLast? ≠ some '/') :
    check path = .ok () ∧ Path.isIdle name = false ∧ name ≠ Path.up ∧
      workspace.entry? directory = some .directory ∧
      ∃ outer, Text.splitOn '/' path = outer ++ [name] ∧
        workspace.follow (workspace.startOf path) outer = .ok directory := by
  rw [locateEntry] at located
  obtain ⟨⟨⟩, checked, located⟩ := bind_eq_ok_iff.mp located
  have filled : path ≠ [] := by
    rintro rfl
    cases checked
  have whole : Text.dropEndWhile List.isEmpty (Text.splitOn '/' path) = Text.splitOn '/' path := by
    refine Text.dropEndWhile_eq_self fun last isLast => ?_
    exact List.isEmpty_eq_false_iff.mpr
      (Text.ne_nil_of_getLast?_splitOn filled unslashed isLast)
  rw [whole] at located
  split at located
  · cases located
  next last outer split =>
  obtain ⟨directory, leads, located⟩ := bind_eq_ok_iff.mp located
  split at located
  · cases located
  next down =>
  cases located
  rw [List.reverse_eq_cons_iff] at split
  rw [Bool.or_eq_true, not_or, Bool.not_eq_true, decide_eq_true_eq] at down
  rw [follow_append] at leads
  obtain ⟨middle, outwards, leads⟩ := bind_eq_ok_iff.mp leads
  obtain ⟨isDirectory, rfl⟩ := isDirectory_of_follow_empty leads
  exact ⟨checked, down.1, down.2, isDirectory, outer.reverse, split, outwards⟩

theorem of_write {content : Bytes} (written : workspace.write path content = .ok next) :
    ∃ directory name, workspace.locateEntry path = .ok (directory, name) ∧
      path.getLast? ≠ some '/' ∧ isTooLong name = false ∧
      workspace.entry? (directory ++ [name]) ≠ some .directory ∧
      next = workspace.put (directory ++ [name]) (.file content) := by
  rw [write] at written
  obtain ⟨⟨directory, name⟩, located, written⟩ := bind_eq_ok_iff.mp written
  dsimp only at written
  split at written
  · cases written
  next unslashed =>
  split at written
  · cases written
  next fits =>
  split at written
  · cases written
  next outside =>
  exact ⟨directory, name, located, unslashed, Bool.eq_false_iff.mpr fits, outside,
    (Except.ok.inj written).symm⟩

theorem read_write {content : Bytes} (written : workspace.write path content = .ok next) :
    next.read path = .ok content := by
  obtain ⟨directory, name, located, unslashed, fits, outside, rfl⟩ := of_write written
  obtain ⟨checked, named, down, isDirectory, outer, split, leads⟩ :=
    of_locateEntry located unslashed
  have stays (other : List Text) (isDirectory : workspace.entry? other = some .directory) :
      entry? (workspace.put (directory ++ [name]) (.file content)) other = some .directory :=
    isDirectory_put outside (.file content) isDirectory
  have reached : (workspace.put (directory ++ [name]) (.file content)).locate path =
      .ok (directory ++ [name]) := by
    refine bind_eq_ok_iff.mpr ⟨(), checked, ?_⟩
    have outwards := follow_of_stays stays leads
    rw [split, follow_append]
    refine bind_eq_ok_iff.mpr ⟨directory, outwards, ?_⟩
    rw [follow, stays directory isDirectory]
    dsimp only
    rw [named, fits, if_neg (by simp), if_neg down, if_neg (by simp), follow]
  refine bind_eq_ok_iff.mpr ⟨_, reached, ?_⟩
  rw [entry?_put outside, if_pos rfl]

theorem readText_write {text : Text}
    (written : workspace.write path (Text.encode text) = .ok next) :
    next.readText path = .ok text := by
  refine bind_eq_ok_iff.mpr ⟨_, read_write written, ?_⟩
  rw [Text.decode?_encode]

/-- Whether a file can be written does not depend on what is written. -/
theorem write_refused {content : Bytes} {fault : FileFault}
    (refused : workspace.write path content = .error fault) (other : Bytes) :
    workspace.write path other = .error fault := by
  rw [write] at refused ⊢
  cases located : workspace.locateEntry path with
  | error fault =>
      rw [located] at refused
      exact refused
  | ok found =>
      rw [located] at refused
      dsimp only [bind, Except.bind] at refused ⊢
      split at refused
      · next slashed => rw [if_pos slashed, refused]
      next unslashed =>
      rw [if_neg unslashed]
      split at refused
      · next long => rw [if_pos long, refused]
      next fits =>
      rw [if_neg fits]
      split at refused
      · exact refused
      · cases refused

end Typeset.Workspace
