import Typeset.Proofs.Path.Extension

/-!
The components of a path: the root or a leading `.`, and then its names in turn.  To take a path
apart, to join it to another and to give it another extension are told by what they do to these.
-/

namespace Typeset.Path

inductive Component where
  | root
  | here
  | up
  | name (name : Text)
deriving DecidableEq, Repr

def Component.ofName (name : Text) : Component :=
  if name = Path.up then .up else .name name

def lead : Path → List Component
  | '/' :: _ => [.root]
  | ['.'] => [.here]
  | '.' :: '/' :: _ => [.here]
  | _ => []

def components (path : Path) : List Component :=
  lead path ++ (names path).map Component.ofName

variable {path base : Path} {name stem extension : Text} {pieces : List Text}

@[simp] theorem Component.ofName_eq_name_iff {given : Text} :
    Component.ofName given = .name name ↔ given = name ∧ name ≠ Path.up := by
  unfold ofName
  split <;> grind

theorem lead_cases (path : Path) :
    ((anchor path).1 = ['/'] ∧ lead path = [.root]) ∨
      ((anchor path).1 = ['.'] ∧ lead path = [.here]) ∨
      (anchor path = ([], path) ∧ lead path = []) := by
  unfold anchor lead
  split <;> simp_all

theorem lead_singleton (first : Char) :
    lead [first] = if first = '/' then [.root] else if first = '.' then [.here] else [] := by
  unfold lead
  split <;> simp_all

theorem lead_cons_cons (first second : Char) (rest : Text) :
    lead (first :: second :: rest) =
      if first = '/' then [.root] else if first = '.' ∧ second = '/' then [.here] else [] := by
  unfold lead
  split <;> simp_all

theorem lead_append_slash {before : Path} (nonempty : before ≠ []) (behind : Path) :
    lead (before ++ '/' :: behind) = lead before := by
  match before with
  | [first] =>
      rw [List.singleton_append, lead_cons_cons, lead_singleton]
      simp only [and_true]
  | first :: second :: rest =>
      rw [List.cons_append, List.cons_append, lead_cons_cons, lead_cons_cons]

theorem lead_of_shorter {shorter : Path} (shortens : shorter <+: path)
    (named : names shorter ≠ []) : lead shorter = lead path := by
  obtain ⟨rest, rfl⟩ := shortens
  match shorter with
  | [] => exact absurd names_nil named
  | [first] =>
      have notSlash : first ≠ '/' := by
        rintro rfl
        exact named rfl
      have notDot : first ≠ '.' := by
        rintro rfl
        exact named rfl
      cases rest with
      | nil => rfl
      | cons second rest =>
          rw [List.singleton_append, lead_cons_cons, lead_singleton]
          simp [notSlash, notDot]
  | first :: second :: others =>
      rw [List.cons_append, List.cons_append, lead_cons_cons, lead_cons_cons]

theorem lead_joinWith (nonempty : name ≠ []) (whole : '/' ∉ name) (others : List Text) :
    lead (Text.joinWith ['/'] (name :: others)) = if name = ['.'] then [.here] else [] := by
  have alone : lead name = if name = ['.'] then [.here] else [] := by
    match name with
    | [first] => simp_all [lead_singleton, eq_comm]
    | first :: second :: rest => simp_all [lead_cons_cons, eq_comm]
  cases others with
  | nil => exact alone
  | cons next others =>
      have joined : Text.joinWith ['/'] (name :: next :: others) =
          name ++ '/' :: Text.joinWith ['/'] (next :: others) := by
        simp [Text.joinWith]
      rw [joined, lead_append_slash nonempty, alone]

theorem first_piece_cases (path : Path) :
    path = [] ∨ lead path ≠ [] ∨
      ∃ first others, Text.splitOn '/' path = first :: others ∧ IsName first := by
  obtain ⟨first, others, split⟩ := List.exists_cons_of_ne_nil (Text.splitOn_ne_nil '/' path)
  have joined := Text.joinWith_splitOn '/' path
  have whole : '/' ∉ first := Text.not_mem_of_mem_splitOn (split ▸ List.mem_cons_self)
  rw [split] at joined
  by_cases idle : isIdle first = true
  · rw [isIdle, Bool.or_eq_true, decide_eq_true_eq, decide_eq_true_eq] at idle
    rcases idle with rfl | rfl
    · cases others with
      | nil => exact .inl joined.symm
      | cons next others =>
          rw [← joined]
          exact .inr (.inl (by simp [Text.joinWith, lead]))
    · have dotted := lead_joinWith (List.cons_ne_nil '.' []) whole others
      rw [joined] at dotted
      exact .inr (.inl (by simp [dotted]))
  · exact .inr (.inr ⟨first, others, split, by simpa using idle, whole⟩)

theorem components_eq_nil_iff : components path = [] ↔ path = [] := by
  constructor
  · intro none
    rw [components, List.append_eq_nil_iff, List.map_eq_nil_iff] at none
    rcases first_piece_cases path with nothing | begins | ⟨first, others, split, isName⟩
    · exact nothing
    · exact absurd none.1 begins
    · simp [names, split, isName.leads] at none
  · rintro rfl
    rfl

theorem getLast?_components_eq_name_iff :
    (components path).getLast? = some (.name name) ↔ fileName? path = some name := by
  rw [fileName?_eq_some_iff, components, List.getLast?_append, List.getLast?_map]
  cases (names path).getLast? with
  | none => rcases lead_cases path with ⟨-, begins⟩ | ⟨-, begins⟩ | ⟨-, begins⟩ <;> simp [begins]
  | some last => simp

theorem fileName?_eq_none_iff :
    fileName? path = none ↔
      components path ∈ [[], [.here], [.root]] ∨ (components path).getLast? = some .up := by
  rcases body_cases path with ⟨none, nameless⟩ | ⟨front, last, split, leads, named⟩
  · have nothing : fileName? path = Option.none := by simp [fileName?, none]
    rw [components, nameless]
    rcases lead_cases path with ⟨-, begins⟩ | ⟨-, begins⟩ | ⟨-, begins⟩ <;> simp [begins, nothing]
  · have final : (components path).getLast? = some (Component.ofName last) := by
      simp [components, named]
    rcases eq_or_ne last up with rfl | ahead
    · have nothing : fileName? path = Option.none := by simp [fileName?, split]
      exact iff_of_true nothing (.inr final)
    · have isFile : fileName? path = some last := by simp [fileName?, split, ahead]
      rw [Component.ofName, if_neg ahead] at final
      refine iff_of_false (by simp [isFile]) ?_
      rintro (member | leadsUp)
      · rcases (by simpa using member) with same | same | same <;> simp [same] at final
      · simp [leadsUp] at final

theorem dropLast_components (named : names path ≠ []) :
    (components path).dropLast = lead path ++ (names path).dropLast.map Component.ofName := by
  rw [components, List.dropLast_append_of_ne_nil (by simpa using named), List.map_dropLast]

theorem IsName.isAbsolute_eq_false (isName : IsName name) : isAbsolute name = false := by
  unfold isAbsolute
  split
  · exact absurd List.mem_cons_self isName.whole
  · rfl

theorem lead_join (relative : isAbsolute path = false) (nonempty : base ≠ []) :
    lead (join base path) = lead base := by
  rw [join, if_neg (by simp [relative])]
  obtain ⟨front, last, rfl⟩ := (List.eq_nil_or_concat base).resolve_left nonempty
  simp only [List.concat_eq_append, List.getLast?_concat]
  split
  · next slash =>
      subst slash
      rcases eq_or_ne front [] with rfl | more
      · rfl
      · rw [List.append_assoc, List.singleton_append, lead_append_slash more,
          lead_append_slash more]
  · exact lead_append_slash (List.append_ne_nil_of_right_ne_nil _ (List.cons_ne_nil _ _)) path

theorem components_join (relative : isAbsolute path = false) (nonempty : base ≠ []) :
    components (join base path) = components base ++ (names path).map Component.ofName := by
  rw [components, lead_join relative nonempty, names_join relative, List.map_append, components,
    List.append_assoc]

theorem lead_ofBody (dotted : (anchor path).1 = ['.'] → ∀ first ∈ pieces.head?, first = [])
    (bare : (anchor path).1 = [] → ∀ first ∈ pieces.head?, IsName first) :
    lead (ofBody (anchor path).1 pieces) = lead path := by
  rcases lead_cases path with ⟨rooted, begins⟩ | ⟨anchored, begins⟩ | ⟨unanchored, begins⟩
  · rw [rooted, begins]
    rfl
  · rw [begins, anchored]
    have opens := dotted anchored
    match pieces with
    | [] => rfl
    | [first] =>
        obtain rfl := opens first rfl
        rfl
    | first :: next :: others =>
        obtain rfl := opens first rfl
        rfl
  · rw [begins, unanchored]
    have opens := bare (by rw [unanchored])
    cases pieces with
    | nil => rfl
    | cons first others =>
        have isName := opens first rfl
        have leads := isName.leads
        have nonempty : first ≠ [] := by
          rintro rfl
          cases leads
        have joined := lead_joinWith nonempty isName.whole others
        rwa [if_neg] at joined
        rintro rfl
        cases leads

theorem isName_of_shorter (starts : pieces <+: body path) (bare : (anchor path).1 = []) :
    ∀ first ∈ pieces.head?, IsName first := by
  intro first isFirst
  obtain ⟨rest, split⟩ := starts.trans (dropEndWhile_shortens _)
  rcases lead_cases path with ⟨rooted, -⟩ | ⟨anchored, -⟩ | ⟨unanchored, begins⟩
  · simp [rooted] at bare
  · simp [anchored] at bare
  · rw [unanchored] at split
    rcases first_piece_cases path with rfl | begun | ⟨head, others, splitToo, isName⟩
    · obtain rfl : pieces = [] := List.prefix_nil.mp starts
      cases isFirst
    · exact absurd begins begun
    · rw [splitToo] at split
      cases pieces with
      | nil => cases isFirst
      | cons _ _ =>
          obtain ⟨rfl, -⟩ := List.cons.inj split
          obtain rfl : _ = first := by simpa using isFirst
          exact isName

theorem components_directory (path : Path) :
    (components path).dropLast = [] ∧ directory path = ['.'] ∨
      (components path).dropLast ≠ [] ∧
        components (directory path) = (components path).dropLast := by
  rcases body_cases path with ⟨none, nameless⟩ | ⟨front, last, split, -, named⟩
  · have dot : directory path = ['.'] := by
      by_cases dotted : (anchor path).1 = ['.'] <;> simp [directory, parent?, none, dotted]
    refine .inl ⟨?_, dot⟩
    rw [components, nameless]
    rcases lead_cases path with ⟨-, begins⟩ | ⟨-, begins⟩ | ⟨-, begins⟩ <;> simp [begins]
  · have shortens : Text.dropEndWhile isIdle front <+: body path := by
      rw [split]
      exact (dropEndWhile_shortens front).trans (List.prefix_append _ _)
    have parent := parent?_of_body split
    have outer : components (ofBody (anchor path).1 (Text.dropEndWhile isIdle front)) =
        (components path).dropLast := by
      rw [components, lead_ofBody (head?_of_shorter shortens) (isName_of_shorter shortens),
        names_outer split, dropLast_components (by simp [named])]
    generalize ofBody (anchor path).1 (Text.dropEndWhile isIdle front) = found at parent outer
    cases found with
    | nil => exact .inl ⟨outer.symm, by simp only [directory, parent]⟩
    | cons first others =>
        have same : directory path = first :: others := by simp only [directory, parent]
        rw [same, outer]
        refine .inr ⟨fun none => ?_, rfl⟩
        rw [none, components_eq_nil_iff] at outer
        cases outer

/-- A directory and the name of a file in it make up the path of that file; a bare name gets a `.`
before it. -/
theorem components_join_directory (named : fileName? path = some name) :
    components (join (directory path) name) = components path ∨
      components (join (directory path) name) = .here :: components path := by
  obtain ⟨last, ahead⟩ := fileName?_eq_some_iff.mp named
  have isName := isName_of_mem_names (List.mem_of_getLast? last)
  have relative := isName.isAbsolute_eq_false
  obtain ⟨outer, whole⟩ :=
    List.getLast?_eq_some_iff.mp (getLast?_components_eq_name_iff.mpr named)
  have joined :
      components (join (directory path) name) = components (directory path) ++ [.name name] := by
    rw [components_join relative (directory_ne_nil path), names_of_isName isName]
    simp [Component.ofName, ahead]
  rcases components_directory path with ⟨alone, dot⟩ | ⟨-, others⟩
  · rw [whole, List.dropLast_concat] at alone
    rw [joined, dot, whole, alone]
    exact .inr rfl
  · rw [whole, List.dropLast_concat] at others
    rw [joined, others, whole]
    exact .inl rfl

theorem IsName.stem_ne_nil (isName : IsName name) : (splitExtension name).1 ≠ [] := by
  rcases splitExtension_cases name with bare | ⟨stem, old, -, nonempty, -, parted⟩
  · rw [bare]
    rintro rfl
    cases isName.leads
  · rwa [parted]

theorem IsName.replaced (isName : IsName name) (whole : '/' ∉ extension) :
    IsName ((splitExtension name).1 ++ '.' :: extension) := by
  refine isName_append_dot isName.stem_ne_nil ?_ whole
  rcases splitExtension_cases name with bare | ⟨stem, old, rfl, -, -, parted⟩
  · rw [bare]
    exact isName.whole
  · rw [parted]
    exact fun member => isName.whole (List.mem_append_left _ member)

theorem lead_replaceEnding (whole : '/' ∉ extension) (path : Path) :
    lead (replaceEnding ('.' :: extension) path) = lead path := by
  cases named : fileName? path with
  | none => simp only [replaceEnding, named]
  | some name =>
      obtain ⟨last, -⟩ := fileName?_eq_some_iff.mp named
      have isNew := (isName_of_mem_names (List.mem_of_getLast? last)).replaced whole
      rcases body_cases path with ⟨none, -⟩ | ⟨front, piece, split, leads, -⟩
      · simp [fileName?, none] at named
      · have dropped : (body path).dropLast = front := by rw [split, List.dropLast_concat]
        simp only [replaceEnding, named, dropped]
        refine lead_ofBody (fun dotted => head?_of_replaced split leads dotted _) ?_
        intro bare first isFirst
        cases front with
        | nil =>
            obtain rfl : _ = first := by simpa using isFirst
            exact isNew
        | cons head tail =>
            have starts : head :: tail <+: body path := by
              rw [split]
              exact List.prefix_append _ _
            exact isName_of_shorter starts bare first isFirst

theorem lead_withExtension (whole : '/' ∉ extension) (path : Path) :
    lead (withExtension extension path) = lead path := by
  unfold withExtension
  split
  · next old found =>
      obtain ⟨name, named, ended⟩ := Option.bind_eq_some_iff.mp found
      obtain ⟨last, -⟩ := fileName?_eq_some_iff.mp named
      rcases splitExtension_cases name with bare | ⟨stem, _, rfl, nonempty, undotted, parted⟩
      · simp [bare] at ended
      · obtain rfl : _ = old := by simpa [parted] using ended
        obtain ⟨kept, -, -, -, cut⟩ := exists_cut last nonempty undotted
        rw [lead_replaceEnding whole, lead_of_shorter (List.take_prefix _ path) (by simp [cut])]
  · exact lead_replaceEnding whole path

/-- With another extension a path has the same components but for the last.  One that names a file
whose stem is a single dot comes to lead up instead, unless something stands behind the name. -/
theorem components_withExtension (named : fileName? path = some name) (whole : '/' ∉ extension)
    (nonempty : extension ≠ []) :
    components (withExtension extension path) =
      (components path).dropLast ++
        [if (splitExtension name).1 = ['.'] ∧ name <:+ path then .up
          else .name ((splitExtension name).1 ++ '.' :: extension)] := by
  obtain ⟨last, -⟩ := fileName?_eq_some_iff.mp named
  have member := List.mem_of_getLast? last
  have notUp : (splitExtension name).1 ++ '.' :: extension ≠ up := by
    rw [ne_eq, append_dot_eq_up_iff (isName_of_mem_names member).stem_ne_nil]
    exact fun both => nonempty both.2
  rw [components, lead_withExtension whole, names_withExtension named whole,
    dropLast_components (List.ne_nil_of_mem member),
    List.map_append, List.append_assoc]
  split <;> simp [Component.ofName, notUp]

end Typeset.Path
