import Typeset.Proofs.Path.Place

/-!
Resolution against a directory that is given from the root.  The components of the directory and then
those of the path are read from left to right, and what is left of them is written in one way: so one
file has one name.
-/

namespace Typeset.Path

/-- Reads one more component.  An empty one and `.` lead nowhere, and `..` takes back the last one
that is kept, if there is one. -/
def readComponent (kept : List Text) (component : Text) : List Text :=
  if isIdle component then kept
  else if component = up then kept.dropLast
  else kept ++ [component]

def componentsFrom (base path : Path) : List Text :=
  (Text.splitOn '/' base ++ Text.splitOn '/' path).foldl readComponent []

structure LeadsDown (component : Text) : Prop extends IsName component where
  ahead : component ≠ up

variable {base path : Path} {list : List Text}

theorem foldl_readComponent (components kept : List Text) :
    components.foldl readComponent kept =
      ((components.filter fun component => !isIdle component).foldl foldName kept.reverse).reverse := by
  induction components generalizing kept with
  | nil => exact (List.reverse_reverse kept).symm
  | cons component components ih =>
      rw [List.foldl_cons, ih]
      by_cases idle : isIdle component = true
      · simp [readComponent, idle]
      · by_cases leadsUp : component = up
        · subst leadsUp
          simp [readComponent, idle, foldName, List.tail_reverse]
        · simp [readComponent, idle, foldName, leadsUp]

theorem componentsFrom_eq (base path : Path) :
    componentsFrom base path = foldNames (names base ++ names path) := by
  rw [componentsFrom, foldl_readComponent, List.filter_append]
  rfl

theorem leadsDown_of_mem_componentsFrom {component : Text}
    (member : component ∈ componentsFrom base path) : LeadsDown component := by
  rw [componentsFrom_eq] at member
  obtain ⟨among, ahead⟩ := mem_foldNames member
  rcases List.mem_append.mp among with inBase | inPath
  · exact ⟨isName_of_mem_names inBase, ahead⟩
  · exact ⟨isName_of_mem_names inPath, ahead⟩

theorem resolveFrom_eq_ofNames (rooted : isAbsolute base = true) (dotted : path.head? = some '.') :
    resolveFrom (some base) path = ofNames true (componentsFrom base path) := by
  obtain ⟨rest, rfl⟩ := List.head?_eq_some_iff.mp dotted
  have nonempty : base ≠ [] := by
    rintro rfl
    cases rooted
  calc
    resolveFrom (some base) ('.' :: rest) = fold (join base ('.' :: rest)) := rfl
    _ = ofNames true (foldNames (names base ++ names ('.' :: rest))) := by
      rw [fold, isAbsolute_join rfl nonempty, rooted, names_join rfl]
    _ = ofNames true (componentsFrom base ('.' :: rest)) := by rw [componentsFrom_eq]

section Rooted

variable (down : ∀ component ∈ list, LeadsDown component)

include down

theorem splitOn_ofNames (nonempty : list ≠ []) :
    Text.splitOn '/' (ofNames true list) = [] :: list := by
  have whole : ∀ component ∈ list, '/' ∉ component := fun component member =>
    (down component member).whole
  calc
    Text.splitOn '/' (ofNames true list) =
        Text.splitOn '/' ([] ++ '/' :: Text.joinWith ['/'] list) := rfl
    _ = [] :: Text.splitOn '/' (Text.joinWith ['/'] list) := Text.splitOn_append '/' [] _
    _ = [] :: list := by rw [Text.splitOn_joinWith nonempty whole]

theorem getLast?_ofNames_ne_slash (nonempty : list ≠ []) :
    (ofNames true list).getLast? ≠ some '/' := by
  intro slash
  obtain ⟨front, same⟩ := List.getLast?_eq_some_iff.mp slash
  obtain ⟨first, others, rfl⟩ := List.exists_cons_of_ne_nil nonempty
  have split := splitOn_ofNames down nonempty
  rw [same, Text.splitOn_append] at split
  -- the last component would be the empty text behind the slash
  have last : (first :: others).getLast? = some [] := by
    have ends := congrArg List.getLast? split
    rw [Text.splitOn, List.getLast?_concat, List.getLast?_cons_cons] at ends
    exact ends.symm
  exact absurd (down [] (List.mem_of_getLast? last)).leads (by decide)

end Rooted

theorem ofNames_inj {others : List Text} (down : ∀ component ∈ list, LeadsDown component)
    (othersDown : ∀ component ∈ others, LeadsDown component) :
    ofNames true others = ofNames true list ↔ others = list := by
  refine ⟨fun same => ?_, congrArg (ofNames true)⟩
  have read := congrArg names same
  rwa [names_ofNames true fun name member => (othersDown name member).toIsName,
    names_ofNames true fun name member => (down name member).toIsName] at read

/-- A path that starts with a dot is resolved to the components that are left when those of the base
and then its own are read, each behind one slash.  The result leads nowhere else from another
directory, and two paths are resolved to the same text only if the same components are left. -/
theorem resolution_is_canonical (rooted : isAbsolute base = true)
    (dotted : path.head? = some '.') :
    let kept := componentsFrom base path
    let found := resolveFrom (some base) path
    found = '/' :: Text.joinWith ['/'] kept ∧
      (∀ component ∈ kept, component ≠ [] ∧ component ≠ ['.'] ∧ component ≠ up ∧
        '/' ∉ component) ∧
      (found = ['/'] ∨ Text.splitOn '/' found = [] :: kept ∧ found.getLast? ≠ some '/') ∧
      (∀ base? : Option Path, resolveFrom base? found = found) ∧
      ∀ otherBase other : Path, isAbsolute otherBase = true → other.head? = some '.' →
        (resolveFrom (some otherBase) other = found ↔ componentsFrom otherBase other = kept) := by
  intro kept found
  have down : ∀ component ∈ kept, LeadsDown component := fun component member =>
    leadsDown_of_mem_componentsFrom member
  have written : found = ofNames true kept := resolveFrom_eq_ofNames rooted dotted
  refine ⟨written, ?_, ?_, ?_, ?_⟩
  · intro component member
    have leads := (down component member).leads
    simp only [isIdle, Bool.or_eq_false_iff, decide_eq_false_iff_not] at leads
    exact ⟨leads.1, leads.2, (down component member).ahead, (down component member).whole⟩
  · rw [written]
    rcases eq_or_ne kept [] with none | nonempty
    · rw [none]
      exact .inl rfl
    · exact .inr ⟨splitOn_ofNames down nonempty, getLast?_ofNames_ne_slash down nonempty⟩
  · intro base?
    rw [written]
    cases base? <;> rfl
  · intro otherBase other otherRooted otherDotted
    rw [resolveFrom_eq_ofNames otherRooted otherDotted, written]
    exact ofNames_inj down fun component member => leadsDown_of_mem_componentsFrom member

/-- There is no way up from the root. -/
theorem shared_file_has_one_name :
    resolveFrom (some "/home/me//thesis/") "./../a/./b.tex" = ("/home/me/a/b.tex" : Text) ∧
      resolveFrom (some "/home/./me") "../../../home/me/a//b.tex" = ("/home/me/a/b.tex" : Text) := by
  obtain ⟨written, -, -, -, unique⟩ :=
    @resolution_is_canonical "/home/me//thesis/" "./../a/./b.tex" rfl rfl
  have first : resolveFrom (some "/home/me//thesis/") "./../a/./b.tex" =
      ("/home/me/a/b.tex" : Text) := written.trans (by decide)
  have same := (unique "/home/./me" "../../../home/me/a//b.tex" rfl rfl).mpr (by decide)
  exact ⟨first, same.trans first⟩

end Typeset.Path
