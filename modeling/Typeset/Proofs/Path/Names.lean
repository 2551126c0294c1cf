import Typeset.Path.Fold
import Typeset.Proofs.Text.Ends
import Typeset.Proofs.Text.Search

/-!
The names of a path.  To join paths joins their names, to go to the directory drops the last one, and
the rest of the spelling, its slashes and dots, adds none.
-/

namespace Typeset.Path

variable {path base : Path} {name : Text} {list : List Text}

structure IsName (name : Text) : Prop where
  leads : isIdle name = false
  whole : '/' ∉ name

theorem isName_of_mem_names (member : name ∈ names path) : IsName name := by
  rw [names, List.mem_filter] at member
  exact ⟨by simpa using member.2, Text.not_mem_of_mem_splitOn member.1⟩

theorem names_nil : names [] = [] := rfl

theorem names_append_slash (before behind : Path) :
    names (before ++ '/' :: behind) = names before ++ names behind := by
  simp only [names, Text.splitOn_append, List.filter_append]

@[simp] theorem names_slash (path : Path) : names ('/' :: path) = names path :=
  names_append_slash [] path

theorem names_of_isName (isName : IsName name) : names name = [name] := by
  simp [names, Text.splitOn_of_not_mem isName.whole, isName.leads]

theorem names_joinWith {pieces : List Text} (whole : ∀ piece ∈ pieces, '/' ∉ piece) :
    names (Text.joinWith ['/'] pieces) = pieces.filter fun piece => !isIdle piece := by
  cases pieces with
  | nil => rfl
  | cons piece pieces => rw [names, Text.splitOn_joinWith (by simp) whole]

theorem names_ofNames (rooted : Bool) (isNames : ∀ name ∈ list, IsName name) :
    names (ofNames rooted list) = list := by
  have joined : names (Text.joinWith ['/'] list) = list := by
    rw [names_joinWith fun name member => (isNames name member).whole, List.filter_eq_self]
    intro name member
    simp [(isNames name member).leads]
  cases rooted with
  | false => exact joined
  | true => exact (names_slash _).trans joined

theorem names_join (relative : isAbsolute path = false) :
    names (join base path) = names base ++ names path := by
  rw [join, if_neg (by simp [relative])]
  cases last : base.getLast? with
  | none =>
      rw [List.getLast?_eq_none_iff] at last
      rw [last]
      rfl
  | some c =>
      by_cases slash : c = '/'
      · subst slash
        obtain ⟨front, rfl⟩ := List.getLast?_eq_some_iff.mp last
        simp [names_append_slash, names_nil]
      · simp [slash, names_append_slash]

theorem isAbsolute_of_shorter {shorter : Path} (shortens : shorter <+: path)
    (nonempty : shorter ≠ []) : isAbsolute shorter = isAbsolute path := by
  obtain ⟨rest, rfl⟩ := shortens
  obtain ⟨first, others, rfl⟩ := List.exists_cons_of_ne_nil nonempty
  by_cases slash : first = '/'
  · subst slash
    rfl
  · simp [isAbsolute, slash]

theorem isAbsolute_join (relative : isAbsolute path = false) (nonempty : base ≠ []) :
    isAbsolute (join base path) = isAbsolute base := by
  refine (isAbsolute_of_shorter ?_ nonempty).symm
  obtain ⟨last, isLast⟩ := Option.isSome_iff_exists.mp (List.getLast?_isSome.mpr nonempty)
  rw [join, if_neg (by simp [relative])]
  simp only [isLast]
  split <;> exact List.prefix_append _ _

theorem anchor_cases (path : Path) :
    (∃ rest, path = '/' :: rest ∧ anchor path = (['/'], rest)) ∨
      (path = ['.'] ∧ anchor path = (['.'], [])) ∨
      (∃ rest, path = '.' :: '/' :: rest ∧ anchor path = (['.'], '/' :: rest)) ∨
      anchor path = ([], path) := by
  unfold anchor
  split
  · next rest => exact .inl ⟨rest, rfl, rfl⟩
  · exact .inr (.inl ⟨rfl, rfl⟩)
  · next rest => exact .inr (.inr (.inl ⟨rest, rfl, rfl⟩))
  · exact .inr (.inr (.inr rfl))

theorem anchor_append (path : Path) : (anchor path).1 ++ (anchor path).2 = path := by
  rcases anchor_cases path with
    ⟨rest, rfl, anchored⟩ | ⟨rfl, anchored⟩ | ⟨rest, rfl, anchored⟩ | anchored
  all_goals
    rw [anchored]
    rfl

theorem names_anchor (path : Path) : names (anchor path).2 = names path := by
  rcases anchor_cases path with
    ⟨rest, rfl, anchored⟩ | ⟨rfl, anchored⟩ | ⟨rest, rfl, anchored⟩ | anchored
  · rw [anchored, names_slash]
  · rw [anchored]
    rfl
  · rw [anchored]
    exact (names_append_slash ['.'] rest).symm
  · rw [anchored]

theorem filter_dropEndWhile (pieces : List Text) :
    (Text.dropEndWhile isIdle pieces).filter (fun piece => !isIdle piece) =
      pieces.filter fun piece => !isIdle piece := by
  obtain ⟨ended, split, idle, -⟩ := Text.exists_dropEndWhile isIdle pieces
  have nothing : ended.filter (fun piece => !isIdle piece) = [] := by
    simpa [List.filter_eq_nil_iff] using idle
  calc
    (Text.dropEndWhile isIdle pieces).filter (fun piece => !isIdle piece) =
        (Text.dropEndWhile isIdle pieces ++ ended).filter fun piece => !isIdle piece := by
      rw [List.filter_append, nothing, List.append_nil]
    _ = pieces.filter fun piece => !isIdle piece := by rw [← split]

theorem dropEndWhile_shortens (pieces : List Text) : Text.dropEndWhile isIdle pieces <+: pieces := by
  obtain ⟨ended, split, -, -⟩ := Text.exists_dropEndWhile isIdle pieces
  exact ⟨ended, split.symm⟩

theorem filter_body (path : Path) :
    (body path).filter (fun piece => !isIdle piece) = names path := by
  rw [body, filter_dropEndWhile, ← names, names_anchor]

theorem not_mem_of_mem_body {piece : Text} (member : piece ∈ body path) : '/' ∉ piece :=
  Text.not_mem_of_mem_splitOn (Text.mem_of_mem_dropEndWhile member)

theorem body_cases (path : Path) :
    (body path = [] ∧ names path = []) ∨
      ∃ front last, body path = front ++ [last] ∧ isIdle last = false ∧
        names path = front.filter (fun piece => !isIdle piece) ++ [last] := by
  have filtered := filter_body path
  obtain ⟨_, -, -, leads⟩ := Text.exists_dropEndWhile isIdle (Text.splitOn '/' (anchor path).2)
  rcases List.eq_nil_or_concat (body path) with none | ⟨front, last, split⟩
  · rw [none] at filtered
    exact .inl ⟨none, filtered.symm⟩
  · rw [List.concat_eq_append] at split
    have leading : isIdle last = false := by
      refine leads last ?_
      rw [← body, split]
      exact List.getLast?_concat
    refine .inr ⟨front, last, split, leading, ?_⟩
    rw [← filtered, split]
    simp [leading]

theorem fileName?_eq_some_iff :
    fileName? path = some name ↔ (names path).getLast? = some name ∧ name ≠ up := by
  rcases body_cases path with ⟨none, nameless⟩ | ⟨front, last, split, -, named⟩
  · simp [fileName?, none, nameless]
  · simp only [fileName?, split, named, List.getLast?_concat, Option.ite_none_left_eq_some]
    constructor
    · rintro ⟨differs, ⟨⟩⟩
      exact ⟨rfl, differs⟩
    · rintro ⟨⟨⟩, differs⟩
      exact ⟨differs, rfl⟩

theorem names_ofBody {pieces : List Text} (whole : ∀ piece ∈ pieces, '/' ∉ piece)
    (opens : (anchor path).1 = ['.'] → ∀ first ∈ pieces.head?, first = []) :
    names (ofBody (anchor path).1 pieces) = pieces.filter fun piece => !isIdle piece := by
  have joined := names_joinWith whole
  have dotted (start : (anchor path).1 = ['.']) :
      names ('.' :: Text.joinWith ['/'] pieces) = pieces.filter fun piece => !isIdle piece := by
    cases pieces with
    | nil => rfl
    | cons first others =>
        obtain rfl := opens start first rfl
        cases others with
        | nil => rfl
        | cons next others => exact (names_append_slash ['.'] _).trans joined
  rcases anchor_cases path with
    ⟨rest, -, anchored⟩ | ⟨-, anchored⟩ | ⟨rest, -, anchored⟩ | anchored
  · rw [anchored]
    exact (names_slash _).trans joined
  · rw [anchored] at dotted ⊢
    exact dotted rfl
  · rw [anchored] at dotted ⊢
    exact dotted rfl
  · rw [anchored]
    exact joined

theorem head?_of_shorter {pieces : List Text} (starts : pieces <+: body path)
    (dotted : (anchor path).1 = ['.']) : ∀ first ∈ pieces.head?, first = [] := by
  intro first isFirst
  obtain ⟨rest, split⟩ := starts.trans (dropEndWhile_shortens _)
  have isHead : first ∈ (Text.splitOn '/' (anchor path).2).head? := by
    rw [← split, List.head?_append, isFirst]
    rfl
  rcases anchor_cases path with
    ⟨rest, -, anchored⟩ | ⟨-, anchored⟩ | ⟨rest, -, anchored⟩ | anchored
  · simp [anchored] at dotted
  · simpa [anchored, Text.splitOn] using isHead.symm
  · simpa [anchored, Text.splitOn] using isHead.symm
  · simp [anchored] at dotted

theorem ofBody_shortens {pieces : List Text} (starts : pieces <+: body path) :
    ofBody (anchor path).1 pieces <+: path := by
  obtain ⟨rest, split⟩ := starts.trans (dropEndWhile_shortens _)
  have joined := Text.joinWith_splitOn '/' (anchor path).2
  rw [← split] at joined
  have shortens : Text.joinWith ['/'] pieces <+: (anchor path).2 := by
    rw [← joined]
    rcases eq_or_ne pieces [] with rfl | left
    · exact List.nil_prefix
    · rcases eq_or_ne rest [] with rfl | right
      · simp
      · rw [Text.joinWith_append _ left right, List.append_assoc]
        exact List.prefix_append _ _
  calc
    ofBody (anchor path).1 pieces <+: (anchor path).1 ++ (anchor path).2 :=
      (List.prefix_append_right_inj _).mpr shortens
    _ = path := anchor_append path

theorem parent?_of_body {front : List Text} {last : Text} (split : body path = front ++ [last]) :
    parent? path = some (ofBody (anchor path).1 (Text.dropEndWhile isIdle front)) := by
  obtain ⟨first, others, cons⟩ := List.exists_cons_of_ne_nil (List.append_ne_nil_of_right_ne_nil front
    (List.cons_ne_nil last []))
  have dropped : (first :: others).dropLast = front := by rw [← cons, List.dropLast_concat]
  simp only [parent?, split, cons, dropped]

theorem names_outer {front : List Text} {last : Text} (split : body path = front ++ [last]) :
    names (ofBody (anchor path).1 (Text.dropEndWhile isIdle front)) = (names path).dropLast := by
  have shortens : Text.dropEndWhile isIdle front <+: body path := by
    rw [split]
    exact (dropEndWhile_shortens front).trans (List.prefix_append _ _)
  rcases body_cases path with ⟨none, -⟩ | ⟨_, _, splitToo, -, named⟩
  · simp [none] at split
  · obtain ⟨rfl, rfl⟩ := List.append_singleton_inj.mp (splitToo.symm.trans split)
    rw [names_ofBody, filter_dropEndWhile, named, List.dropLast_concat]
    · intro piece member
      exact not_mem_of_mem_body (shortens.subset member)
    · exact head?_of_shorter shortens

/-- The directory is a start of the path and has all its names but the last, or it is `.`. -/
theorem directory_cases (path : Path) :
    names (directory path) = (names path).dropLast ∧
      (directory path = ['.'] ∨ directory path ≠ [] ∧ directory path <+: path) := by
  rcases body_cases path with ⟨none, nameless⟩ | ⟨front, last, split, -, -⟩
  · have dot : directory path = ['.'] := by
      by_cases dotted : (anchor path).1 = ['.'] <;> simp [directory, parent?, none, dotted]
    rw [dot, nameless]
    exact ⟨rfl, .inl rfl⟩
  · have shortens : Text.dropEndWhile isIdle front <+: body path := by
      rw [split]
      exact (dropEndWhile_shortens front).trans (List.prefix_append _ _)
    have parent := parent?_of_body split
    have starts := ofBody_shortens shortens
    have inner := names_outer split
    generalize ofBody (anchor path).1 (Text.dropEndWhile isIdle front) = found at parent starts inner
    cases found with
    | nil =>
        have dot : directory path = ['.'] := by simp only [directory, parent]
        rw [dot]
        exact ⟨inner, .inl rfl⟩
    | cons first others =>
        have same : directory path = first :: others := by simp only [directory, parent]
        rw [same]
        exact ⟨inner, .inr ⟨List.cons_ne_nil first others, starts⟩⟩

theorem names_directory (path : Path) : names (directory path) = (names path).dropLast :=
  (directory_cases path).1

theorem directory_ne_nil (path : Path) : directory path ≠ [] := by
  rcases (directory_cases path).2 with dot | ⟨nonempty, -⟩
  · simp [dot]
  · exact nonempty

end Typeset.Path
