import Typeset.Proofs.Path.Names

/-!
The extension.  To replace it, the length of the old one is first cut off the end of the whole path.
What is cut may be slashes and dots behind the name instead, and then the rest of the old extension
is replaced afterwards; so all names stay but the last, and that one keeps its stem.
-/

namespace Typeset.Path

variable {path : Path} {name stem extension : Text}

theorem splitExtension_append (nonempty : stem ≠ []) (undotted : '.' ∉ extension) :
    splitExtension (stem ++ '.' :: extension) = (stem, some extension) := by
  obtain ⟨front, last, rfl⟩ := (List.eq_nil_or_concat stem).resolve_left nonempty
  have passes : ∀ c ∈ extension.reverse, decide (c ≠ '.') = true := by
    intro c member
    exact decide_eq_true fun same => undotted (same ▸ List.mem_reverse.mp member)
  have stops (rest : Text) : Text.Stops (fun c => decide (c ≠ '.')) ('.' :: rest) :=
    .cons (by decide) rest
  have turned : (front.concat last ++ '.' :: extension).reverse =
      extension.reverse ++ '.' :: last :: front.reverse := by simp
  simp only [splitExtension, turned, Text.takeWhile_append_stop passes (stops _),
    Text.dropWhile_append_stop passes (stops _)]
  simp

theorem splitExtension_cases (name : Text) :
    splitExtension name = (name, none) ∨
      ∃ stem extension, name = stem ++ '.' :: extension ∧ stem ≠ [] ∧ '.' ∉ extension ∧
        splitExtension name = (stem, some extension) := by
  unfold splitExtension
  split
  · next first rest ends =>
      have undotted : '.' ∉ name.reverse.takeWhile (· ≠ '.') := by
        intro member
        simpa using List.mem_takeWhile_imp member
      have turned := List.takeWhile_append_dropWhile (p := (· ≠ '.')) (l := name.reverse)
      rw [ends] at turned
      refine .inr ⟨(first :: rest).reverse, _, ?_, by simp, by simpa using undotted, rfl⟩
      calc
        name = name.reverse.reverse := (List.reverse_reverse name).symm
        _ = (name.reverse.takeWhile (· ≠ '.') ++ '.' :: first :: rest).reverse := by rw [turned]
        _ = (first :: rest).reverse ++ '.' :: (name.reverse.takeWhile (· ≠ '.')).reverse := by
          rw [List.reverse_append, List.reverse_cons, List.append_assoc, List.singleton_append]
  · exact .inl rfl

/-- What stands before the extension of a name.  A dot at the front starts no extension. -/
inductive IsStem : Text → Text → Prop
  | bare {name : Text} : '.' ∉ name.tail → IsStem name name
  | ended {stem extension : Text} : stem ≠ [] → '.' ∉ extension →
      IsStem (stem ++ '.' :: extension) stem

theorem isStem_iff : IsStem name stem ↔ (splitExtension name).1 = stem := by
  constructor
  · intro isStem
    cases isStem with
    | ended nonempty undotted => rw [splitExtension_append nonempty undotted]
    | bare undotted =>
        rcases splitExtension_cases name with whole | ⟨front, extension, rfl, nonempty, -, -⟩
        · rw [whole]
        · simp [List.tail_append_of_ne_nil nonempty] at undotted
  · rintro rfl
    rcases splitExtension_cases name with whole | ⟨front, extension, rfl, nonempty, undotted, parted⟩
    · rw [whole]
      refine .bare fun member => ?_
      obtain ⟨first, others, rfl⟩ :=
        List.exists_cons_of_ne_nil (List.ne_nil_of_mem (List.mem_of_mem_tail member))
      obtain ⟨before, behind, rfl, undotted⟩ := Text.exists_last_of_mem member
      have parted := splitExtension_append (List.cons_ne_nil first before) undotted
      rw [List.cons_append, whole] at parted
      exact absurd (congrArg Prod.snd parted) (by simp)
    · rw [parted]
      exact .ended nonempty undotted

theorem isName_append_dot (nonempty : stem ≠ []) (stemWhole : '/' ∉ stem)
    (extensionWhole : '/' ∉ extension) : IsName (stem ++ '.' :: extension) := by
  obtain ⟨first, others, rfl⟩ := List.exists_cons_of_ne_nil nonempty
  refine ⟨?_, ?_⟩
  · simp [isIdle]
  · simp_all

theorem append_dot_eq_up_iff (nonempty : stem ≠ []) :
    stem ++ '.' :: extension = up ↔ stem = ['.'] ∧ extension = [] := by
  obtain ⟨first, others, rfl⟩ := List.exists_cons_of_ne_nil nonempty
  cases others with
  | nil => simp [up]
  | cons next rest => simp [up]

/-- A start of a path that ends with a slash, so that names behind it are names of the path. -/
def Opens (before : Path) : Prop :=
  before = [] ∨ ∃ outer, before = outer ++ ['/']

def Idles (behind : Path) : Prop :=
  behind = [] ∨ ∃ rest, behind = '/' :: rest ∧ names rest = []

theorem Opens.names_append {before : Path} (opens : Opens before) (path : Path) :
    names (before ++ path) = names before ++ names path := by
  rcases opens with rfl | ⟨outer, rfl⟩
  · rfl
  · simp [names_append_slash, names_nil]

theorem Idles.names_append {behind : Path} (idles : Idles behind) (path : Path) :
    names (path ++ behind) = names path := by
  rcases idles with rfl | ⟨rest, rfl, nameless⟩
  · rw [List.append_nil]
  · rw [names_append_slash, nameless, List.append_nil]

theorem isIdle_of_names_eq_nil (whole : '/' ∉ path) (nameless : names path = []) :
    isIdle path = true := by
  simpa [names, Text.splitOn_of_not_mem whole] using nameless

theorem isIdle_of_append {first second : Text} (idle : isIdle (first ++ second) = true) :
    isIdle first = true := by
  cases first with
  | nil => rfl
  | cons head tail => simp_all [isIdle]

theorem names_first (path : Path) :
    names path = names (path.takeWhile (· ≠ '/')) ++ names (path.dropWhile (· ≠ '/')) := by
  have split := List.takeWhile_append_dropWhile (p := (· ≠ '/')) (l := path)
  have stop := List.head?_dropWhile_not (· ≠ '/') path
  cases ends : path.dropWhile (· ≠ '/') with
  | nil =>
      rw [ends, List.append_nil] at split
      rw [split, names_nil, List.append_nil]
  | cons first others =>
      rw [ends] at stop split
      obtain rfl : first = '/' := by simpa using stop
      rw [names_slash, ← names_append_slash, split]

theorem names_eq_nil_of_shorter {shorter : Path} (shortens : shorter <+: path)
    (nameless : names path = []) : names shorter = [] := by
  obtain ⟨rest, rfl⟩ := shortens
  induction length : shorter.length using Nat.strong_induction_on generalizing shorter with
  | _ count ih =>
      by_cases slash : '/' ∈ shorter
      · obtain ⟨before, behind, rfl⟩ := List.append_of_mem slash
        have less : behind.length < count := by
          rw [← length, List.length_append, List.length_cons]
          omega
        rw [List.append_assoc, List.cons_append, names_append_slash, List.append_eq_nil_iff]
          at nameless
        rw [names_append_slash, nameless.1, ih behind.length less nameless.2 rfl]
        rfl
      · -- the piece that the start ends in may go on behind it, up to the next slash
        have passes : ∀ c ∈ shorter, decide (c ≠ '/') = true := by
          intro c member
          exact decide_eq_true fun same => slash (same ▸ member)
        rw [names_first, List.append_eq_nil_iff, List.takeWhile_append_of_pos passes] at nameless
        have whole : '/' ∉ shorter ++ rest.takeWhile (· ≠ '/') := by
          rw [List.mem_append, not_or]
          refine ⟨slash, fun member => ?_⟩
          simpa using List.mem_takeWhile_imp member
        have idle := isIdle_of_append (isIdle_of_names_eq_nil whole nameless.1)
        simp [names, Text.splitOn_of_not_mem slash, idle]

theorem Idles.of_shorter {behind shorter : Path} (idles : Idles behind)
    (shortens : shorter <+: behind) : Idles shorter := by
  rcases idles with rfl | ⟨rest, rfl, nameless⟩
  · exact .inl (List.prefix_nil.mp shortens)
  · rcases List.prefix_cons_iff.mp shortens with rfl | ⟨inner, rfl, within⟩
    · exact .inl rfl
    · exact .inr ⟨inner, rfl, names_eq_nil_of_shorter within nameless⟩

theorem names_ne_nil_of_suffix (isName : IsName name) (ends : name <:+ path) : names path ≠ [] := by
  intro nameless
  obtain ⟨front, rfl⟩ := ends
  have last : ∃ start, isIdle (start ++ name) = true := by
    by_cases slash : '/' ∈ front
    · obtain ⟨before, start, rfl, startWhole⟩ := Text.exists_last_of_mem slash
      rw [List.append_assoc, List.cons_append, names_append_slash, List.append_eq_nil_iff]
        at nameless
      exact ⟨start, isIdle_of_names_eq_nil (by simp [startWhole, isName.whole]) nameless.2⟩
    · exact ⟨front, isIdle_of_names_eq_nil (by simp [slash, isName.whole]) nameless⟩
  obtain ⟨start, idle⟩ := last
  have leads := isName.leads
  cases start with
  | nil => simp_all
  | cons head tail => simp_all [isIdle]

theorem Idles.eq_nil_of_suffix {behind before : Path} (idles : Idles behind) (isName : IsName name)
    (ends : name <:+ before ++ behind) : behind = [] := by
  rcases idles with rfl | ⟨rest, rfl, nameless⟩
  · rfl
  · rcases List.suffix_or_suffix_of_suffix ends (List.suffix_append _ _) with within | beyond
    · rcases List.suffix_cons_iff.mp within with rfl | inner
      · exact absurd List.mem_cons_self isName.whole
      · exact absurd nameless (names_ne_nil_of_suffix isName inner)
    · exact absurd (beyond.subset List.mem_cons_self) isName.whole

theorem exists_opens (front : List Text) (name : Text) :
    ∃ before, Opens before ∧ Text.joinWith ['/'] (front ++ [name]) = before ++ name := by
  rcases eq_or_ne front [] with rfl | nonempty
  · exact ⟨[], .inl rfl, rfl⟩
  · exact ⟨_, .inr ⟨_, rfl⟩, Text.joinWith_append _ nonempty (List.cons_ne_nil name [])⟩

theorem exists_idles {pieces ended : List Text} (nonempty : pieces ≠ [])
    (whole : ∀ piece ∈ ended, '/' ∉ piece) (idle : ∀ piece ∈ ended, isIdle piece) :
    ∃ behind, Idles behind ∧
      Text.joinWith ['/'] (pieces ++ ended) = Text.joinWith ['/'] pieces ++ behind := by
  rcases eq_or_ne ended [] with rfl | more
  · exact ⟨[], .inl rfl, by simp⟩
  · refine ⟨'/' :: Text.joinWith ['/'] ended, .inr ⟨_, rfl, ?_⟩, ?_⟩
    · rw [names_joinWith whole]
      simpa [List.filter_eq_nil_iff] using idle
    · rw [Text.joinWith_append _ nonempty more, List.append_assoc]
      rfl

theorem exists_split (last : (names path).getLast? = some name) :
    ∃ before behind, path = before ++ (name ++ behind) ∧ Opens before ∧ Idles behind := by
  obtain ⟨ended, split, idle, leads⟩ := Text.exists_dropEndWhile isIdle (Text.splitOn '/' path)
  have named := filter_dropEndWhile (Text.splitOn '/' path)
  have joined := Text.joinWith_splitOn '/' path
  have whole : ∀ piece ∈ ended, '/' ∉ piece := by
    intro piece member
    have among : piece ∈ Text.splitOn '/' path := by
      rw [split]
      exact List.mem_append_right _ member
    exact Text.not_mem_of_mem_splitOn among
  rw [← names] at named
  rw [split] at joined
  generalize Text.dropEndWhile isIdle (Text.splitOn '/' path) = kept at joined leads named
  rcases List.eq_nil_or_concat kept with rfl | ⟨front, final, rfl⟩
  · simp [← named] at last
  · rw [List.concat_eq_append] at joined leads named
    have leading : isIdle final = false := leads final List.getLast?_concat
    obtain rfl : final = name := by simpa [← named, leading] using last
    obtain ⟨before, opens, start⟩ := exists_opens front final
    obtain ⟨behind, idles, rest⟩ := exists_idles (List.concat_ne_nil final front) whole idle
    refine ⟨before, behind, ?_, opens, idles⟩
    rw [← joined, rest, start, List.append_assoc]

theorem head?_of_replaced {front : List Text} {last : Text} (split : body path = front ++ [last])
    (leads : isIdle last = false) (dotted : (anchor path).1 = ['.']) (new : Text) :
    ∀ first ∈ (front ++ [new]).head?, first = [] := by
  intro first isFirst
  have starts : front <+: body path := by
    rw [split]
    exact List.prefix_append _ _
  cases front with
  | nil =>
      obtain rfl : last = [] := head?_of_shorter List.prefix_rfl dotted last (by simp [split])
      simp [isIdle] at leads
  | cons head tail => exact head?_of_shorter starts dotted first isFirst

theorem names_replaceEnding (named : fileName? path = some name)
    (nonempty : (splitExtension name).1 ≠ []) (stemWhole : '/' ∉ (splitExtension name).1)
    (extensionWhole : '/' ∉ extension) :
    names (replaceEnding ('.' :: extension) path) =
      (names path).dropLast ++ [(splitExtension name).1 ++ '.' :: extension] := by
  have isNew : IsName ((splitExtension name).1 ++ '.' :: extension) :=
    isName_append_dot nonempty stemWhole extensionWhole
  rcases body_cases path with ⟨none, -⟩ | ⟨front, last, split, leads, inner⟩
  · simp [fileName?, none] at named
  · have starts : front <+: body path := by
      rw [split]
      exact List.prefix_append _ _
    have dropped : (body path).dropLast = front := by rw [split, List.dropLast_concat]
    simp only [replaceEnding, named, dropped]
    rw [names_ofBody, List.filter_append, inner, List.dropLast_concat]
    · simp [isNew.leads]
    · simp only [List.forall_mem_append, List.forall_mem_singleton]
      exact ⟨fun piece member => not_mem_of_mem_body (starts.subset member), isNew.whole⟩
    · exact fun dotted => head?_of_replaced split leads dotted _

section Cut

variable (last : (names path).getLast? = some (stem ++ '.' :: extension)) (nonempty : stem ≠ [])
  (undotted : '.' ∉ extension)

include last nonempty undotted

/-- To cut the length of its extension off the end of a path takes it off the last name, or leaves a
part of it there if something stands behind that name. -/
theorem exists_cut :
    ∃ kept, '.' ∉ kept ∧ '/' ∉ kept ∧
      (kept = [] ↔ extension = [] ∨ stem ++ '.' :: extension <:+ path) ∧
      names (path.take (path.length - extension.length)) =
        (names path).dropLast ++ [stem ++ '.' :: kept] := by
  have isName := isName_of_mem_names (List.mem_of_getLast? last)
  obtain ⟨before, behind, rfl, opens, idles⟩ := exists_split last
  have all : names (before ++ (stem ++ '.' :: extension ++ behind)) =
      names before ++ [stem ++ '.' :: extension] := by
    rw [opens.names_append, idles.names_append, names_of_isName isName]
  have stemWhole : '/' ∉ stem := fun member => isName.whole (List.mem_append_left _ member)
  have extensionWhole : '/' ∉ extension := fun member => isName.whole (by simp [member])
  have kept : ∀ c ∈ extension.take behind.length, c ∈ extension := fun c => List.mem_of_mem_take
  have cut : (before ++ (stem ++ '.' :: extension ++ behind)).take
        ((before ++ (stem ++ '.' :: extension ++ behind)).length - extension.length) =
      before ++ (stem ++ '.' :: extension.take behind.length ++
        behind.take (behind.length - extension.length)) := by
    have regrouped : before ++ (stem ++ '.' :: extension ++ behind) =
        (before ++ (stem ++ ['.'])) ++ (extension ++ behind) := by simp
    have count : (before ++ (stem ++ '.' :: extension ++ behind)).length - extension.length =
        (before ++ (stem ++ ['.'])).length + behind.length := by
      simp only [List.length_append, List.length_cons, List.length_nil]
      omega
    rw [count, regrouped, List.take_length_add_append, List.take_append]
    simp
  have isCut : IsName (stem ++ '.' :: extension.take behind.length) :=
    isName_append_dot nonempty stemWhole (mt (kept _) extensionWhole)
  have nothingKept : extension.take behind.length = [] ↔ extension = [] ∨
      stem ++ '.' :: extension <:+ before ++ (stem ++ '.' :: extension ++ behind) := by
    rw [List.take_eq_nil_iff, List.length_eq_zero_iff, or_comm]
    refine or_congr_right ⟨?_, fun ends => ?_⟩
    · rintro rfl
      rw [List.append_nil]
      exact List.suffix_append _ _
    · rw [← List.append_assoc] at ends
      exact idles.eq_nil_of_suffix isName ends
  refine ⟨extension.take behind.length, mt (kept _) undotted, mt (kept _) extensionWhole,
    nothingKept, ?_⟩
  rw [cut, all, List.dropLast_concat, opens.names_append,
    (idles.of_shorter (List.take_prefix _ _)).names_append, names_of_isName isCut]

end Cut

/-- A path with another extension has the same names but for the last, which keeps its stem.  A stem
of one dot at the end of the path is lost, since what is left of the name before the new extension is
put behind it leads up. -/
theorem names_withExtension (named : fileName? path = some name) (whole : '/' ∉ extension) :
    names (withExtension extension path) =
      (names path).dropLast ++
        [if (splitExtension name).1 = ['.'] ∧ name <:+ path then up
          else (splitExtension name).1 ++ '.' :: extension] := by
  obtain ⟨last, isFile⟩ := fileName?_eq_some_iff.mp named
  have isName := isName_of_mem_names (List.mem_of_getLast? last)
  rcases splitExtension_cases name with bare | ⟨stem, old, rfl, nonempty, undotted, parted⟩
  · have nonempty : name ≠ [] := by
      rintro rfl
      exact absurd isName.leads (by decide)
    have notDot : ¬(name = ['.'] ∧ name <:+ path) := by
      rintro ⟨rfl, -⟩
      exact absurd isName.leads (by decide)
    have replaced : withExtension extension path = replaceEnding ('.' :: extension) path := by
      simp only [withExtension, named, Option.bind_some, bare]
    have inner := names_replaceEnding named (by rwa [bare]) (by rw [bare]; exact isName.whole) whole
    rw [bare] at inner ⊢
    rw [replaced, inner, if_neg notDot]
  · have replaced : withExtension extension path =
        replaceEnding ('.' :: extension) (path.take (path.length - old.length)) := by
      simp only [withExtension, named, Option.bind_some, parted]
    have stemWhole : '/' ∉ stem := fun member => isName.whole (List.mem_append_left _ member)
    obtain ⟨kept, keptUndotted, keptWhole, nothingKept, cut⟩ := exists_cut last nonempty undotted
    rw [replaced, parted]
    generalize path.take (path.length - old.length) = shorter at cut
    have lastCut : (names shorter).getLast? = some (stem ++ '.' :: kept) := by
      rw [cut, List.getLast?_concat]
    have notBoth : ¬(stem = ['.'] ∧ old = []) := mt (append_dot_eq_up_iff nonempty).mpr isFile
    have leadsUp_iff : stem ++ '.' :: kept = up ↔ stem = ['.'] ∧ stem ++ '.' :: old <:+ path := by
      rw [append_dot_eq_up_iff nonempty, nothingKept, and_or_left, or_iff_right notBoth]
    by_cases leadsUp : stem ++ '.' :: kept = up
    · have nameless : fileName? shorter = none := by
        rw [Option.eq_none_iff_forall_ne_some]
        intro other isOther
        obtain ⟨lastOther, notUp⟩ := fileName?_eq_some_iff.mp isOther
        rw [lastCut, Option.some.injEq] at lastOther
        exact notUp (lastOther.symm.trans leadsUp)
      simp only [replaceEnding, nameless]
      rw [if_pos (leadsUp_iff.mp leadsUp), cut, leadsUp]
    · have namedCut := fileName?_eq_some_iff.mpr ⟨lastCut, leadsUp⟩
      have partedCut := splitExtension_append nonempty keptUndotted
      have inner := names_replaceEnding namedCut (by rwa [partedCut])
        (by rw [partedCut]; exact stemWhole) whole
      rw [partedCut, cut, List.dropLast_concat] at inner
      rw [if_neg (mt leadsUp_iff.mpr leadsUp), inner]

end Typeset.Path
