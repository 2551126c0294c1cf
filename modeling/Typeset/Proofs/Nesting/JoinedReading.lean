import Typeset.Nesting.Joined
import Typeset.Proofs.Nesting.Recognise

/-!
What the joining reader makes of the parts of a line: the closing parentheses before its text, the
one path it opens, and the closing parentheses at its end.
-/

namespace Typeset.FileToken.Joined

variable {items run rest : Text}

def OpensFirst (text : Text) : Prop :=
  Delimits (text.dropWhile isPlain)

theorem opensFirst_append (plain : ∀ c ∈ run, isPlain c) :
    OpensFirst (run ++ rest) ↔ OpensFirst rest := by
  rw [OpensFirst, List.dropWhile_append_of_pos plain, OpensFirst]

theorem opensFirst_of_delimits (delimits : Delimits rest) : OpensFirst rest := by
  have stops : Text.Stops isPlain rest := delimits.stops (by decide)
  have same : ([] ++ rest).dropWhile isPlain = rest :=
    Text.dropWhile_append_stop (by simp) stops
  rw [List.nil_append] at same
  rwa [OpensFirst, same]

theorem leadingCloses_of_opensFirst (held : Text) {text : Text} (spaces : ∀ c ∈ held, c = ' ')
    (opensFirst : OpensFirst text) : leadingCloses held text = (0, held ++ text) := by
  induction text generalizing held with
  | nil => rfl
  | cons first others ih =>
      by_cases isSpace : first = ' '
      · subst first
        have heldSame : ' ' :: held = held ++ [' '] := by
          rw [List.eq_replicate_of_mem spaces, ← List.replicate_succ, List.replicate_succ']
        have spaced : OpensFirst ([' '] ++ others) := opensFirst
        have later : OpensFirst others := (opensFirst_append (by simp [isPlain])).mp spaced
        rw [leadingCloses, ih _ (by simpa using spaces) later, heldSame, List.append_assoc]
        rfl
      · have noClose : first ≠ ')' := by
          rintro rfl
          simpa using opensFirst.eq_opening
        unfold leadingCloses
        split
        · next same => exact absurd (List.cons.inj same).1 isSpace
        · next same => exact absurd (List.cons.inj same).1 noClose
        · rfl

theorem lineTokens_of_opensFirst (full : Bool) {text : Text} (opensFirst : OpensFirst text) :
    lineTokens full text = opening full text ++ List.replicate (trailingCloses text) .closed := by
  simp only [lineTokens, leadingCloses_of_opensFirst [] (by simp) opensFirst, List.nil_append,
    List.replicate_zero]

theorem leadingCloses_spaces (held : Text) (count : Nat) :
    leadingCloses held (List.replicate count ' ' ++ ')' :: rest) =
      ((leadingCloses [] rest).1 + 1, (leadingCloses [] rest).2) := by
  induction count generalizing held with
  | zero => rfl
  | succ count ih => exact ih (' ' :: held)

theorem openAtEnd?_append (plain : '(' ∉ items) : openAtEnd? (items ++ rest) = openAtEnd? rest := by
  rw [openAtEnd?, firstOpening?_append plain, openAtEnd?]

theorem openBefore?_append (plain : '(' ∉ items) :
    openBefore? (items ++ rest) = openBefore? rest := by
  rw [openBefore?, firstOpening?_append plain, openBefore?]

theorem openAtEnd?_eq_none (plain : '(' ∉ items) : openAtEnd? items = none := by
  rw [openAtEnd?, firstOpening?_eq_none plain, Option.map_none]

theorem openBefore?_eq_none (plain : '(' ∉ items) : openBefore? items = none := by
  rw [openBefore?, firstOpening?_eq_none plain, Option.map_none]

theorem openAtEnd?_paren {paren : Char} (chars : ∀ c ∈ run, isPathChar c)
    (isParen : isPlain paren = false) :
    openAtEnd? ('(' :: run ++ paren :: rest) = openAtEnd? (paren :: rest) := by
  have noOpening : '(' ∉ run := not_mem_of_isPathChar chars (by decide)
  have noChar : isPathChar paren = false := by
    rw [Bool.eq_false_iff] at isParen ⊢
    exact mt isPlain_of_isPathChar isParen
  have unended : shortestPath? (afterMarker? atEnd?) (run ++ paren :: rest) = none := by
    apply shortestPath?_unended chars noChar
    intro after afterChars
    rw [Option.eq_none_iff_forall_ne_some]
    intro found stopped
    obtain ⟨ended, -⟩ := of_afterMarker? stopsAt_atEnd?
      (fun _ ended => (delimits_of_eq_nil ended).stops (by decide)) (forall_isPlain afterChars)
      (Text.Stops.cons isParen rest) stopped
    exact absurd ended (by simp)
  rw [openAtEnd?, List.cons_append, firstOpening?_opening, unended, Option.none_or,
    firstOpening?_append noOpening, openAtEnd?]

theorem openAtEnd?_unmarked (chars : ∀ c ∈ run, isPathChar c) (unmarked : ¬ EndsInNumber run) :
    openAtEnd? ('(' :: run) = some run := by
  have found := shortestPath?_unmarked stopsAt_atEnd? (fun _ => delimits_of_eq_nil) chars unmarked
    delimits_nil rfl
  rw [List.append_nil] at found
  rw [openAtEnd?, firstOpening?_opening, found]
  rfl

theorem openAtEnd?_gap (path : UnmarkedPath) (gap : Gap) :
    openAtEnd? ('(' :: path.text ++ gap.text) = some (path.text ++ gap.taken) := by
  have found := shortestPath?_gap stopsAt_atEnd? (fun _ => delimits_of_eq_nil) path
    (List.suffix_refl _) gap delimits_nil rfl
  rw [List.append_nil] at found
  rw [openAtEnd?, List.cons_append, firstOpening?_opening, found]
  rfl

theorem atBlankOpening?_blanks {blanks : Text} (blank : ∀ c ∈ blanks, Text.isBlank c) :
    atBlankOpening? (blanks ++ '(' :: rest) = some ('(' :: rest) := by
  rw [atBlankOpening?, Text.dropWhile_append_stop blank (Text.Stops.cons (by decide) rest)]
  rfl

theorem of_atBlankOpening? {found : Text} (plain : ∀ c ∈ run, isPlain c)
    (ends : Text.Stops isPlain rest) (stopped : atBlankOpening? (run ++ rest) = some found) :
    rest.head? = some '(' ∧ ∀ c ∈ run, Text.isBlank c := by
  unfold atBlankOpening? at stopped
  split at stopped
  · next after start =>
      have whole : (run ++ rest).takeWhile Text.isBlank ++ (run ++ rest).dropWhile Text.isBlank =
          run ++ rest := List.takeWhile_append_dropWhile
      rw [start] at whole
      have blank : ∀ c ∈ (run ++ rest).takeWhile Text.isBlank, Text.isBlank c := fun c member =>
        List.mem_takeWhile_imp member
      obtain ⟨same, restSame⟩ := Text.run_unique whole
        (fun c member => isPlain_of_isBlank (blank c member)) plain
        (Text.Stops.cons (by decide) after) ends
      rw [same] at blank
      exact ⟨by rw [← restSame]; rfl, blank⟩
  · simp at stopped

theorem openBefore?_closing (chars : ∀ c ∈ run, isPathChar c) :
    openBefore? ('(' :: run ++ ')' :: rest) = openBefore? rest := by
  have noOpening : '(' ∉ run ++ [')'] := by
    simpa using not_mem_of_isPathChar chars (by decide)
  have unended : shortestPath? atBlankOpening? (run ++ ')' :: rest) = none := by
    apply shortestPath?_unended chars (by decide)
    intro after afterChars
    rw [Option.eq_none_iff_forall_ne_some]
    intro found stopped
    obtain ⟨opens, -⟩ := of_atBlankOpening? (forall_isPlain afterChars)
      (Text.Stops.cons (by decide) rest) stopped
    exact absurd opens (by simp)
  rw [openBefore?, List.cons_append, firstOpening?_opening, unended, Option.none_or,
    List.append_cons, firstOpening?_append noOpening, openBefore?]

theorem openBefore?_opening (path : PrintedPath) (blanks : Blanks) :
    openBefore? ('(' :: path.text ++ blanks.text ++ '(' :: rest) = some path.text := by
  have found : shortestPath? atBlankOpening? (path.text ++ (blanks.text ++ '(' :: rest)) =
      some (path.text, '(' :: rest) := by
    rw [shortestPath?_append path.chars,
      shortestPath?_of_stop (atBlankOpening?_blanks blanks.blank)]
    · simp
    · intro after suffix nonempty
      rw [Option.eq_none_iff_forall_ne_some]
      intro found stopped
      have plain : ∀ c ∈ after ++ blanks.text, isPlain c := by
        intro c member
        rcases List.mem_append.mp member with member | member
        · exact isPlain_of_isPathChar (path.chars c (suffix.subset member))
        · exact isPlain_of_isBlank (blanks.blank c member)
      rw [← List.append_assoc] at stopped
      obtain ⟨-, blank⟩ := of_atBlankOpening? plain (Text.Stops.cons (by decide) rest) stopped
      obtain ⟨last, member, solid⟩ := Text.exists_solid_of_suffix path.trimmed suffix nonempty
      simp [blank last (List.mem_append_left _ member)] at solid
  rw [openBefore?, List.cons_append, List.cons_append, firstOpening?_opening, List.append_assoc,
    found]
  rfl

theorem trailingCloses_replicate (count : Nat) (fails : ∀ last ∈ items.getLast?, last ≠ ')') :
    trailingCloses (items ++ List.replicate count ')') = count - 1 := by
  have stops : Text.Stops (fun c => c = ')') items.reverse := by
    intro first isFirst
    rw [List.head?_reverse] at isFirst
    simpa using fails first isFirst
  have passes : ∀ c ∈ List.replicate count ')', (fun c => decide (c = ')')) c := by
    intro c member
    simpa using List.eq_of_mem_replicate member
  rw [trailingCloses, List.reverse_append, List.reverse_replicate,
    Text.takeWhile_append_stop passes stops, List.length_replicate]

theorem getLast?_ne_closing (items : Text) (chars : ∀ c ∈ run, isPathChar c) :
    ∀ last ∈ (items ++ '(' :: run).getLast?, last ≠ ')' := by
  intro last isLast
  rw [List.getLast?_append, List.getLast?_cons, Option.some_or, Option.mem_some_iff] at isLast
  subst last
  cases runLast : run.getLast? with
  | none => decide
  | some last =>
      have isChar : isPathChar last = true := chars last (List.mem_of_getLast? runLast)
      exact ((isPathChar_iff last).mp isChar).2.1

theorem trailingCloses_eq_zero (fails : ∀ last ∈ items.getLast?, last ≠ ')') :
    trailingCloses items = 0 := by
  simpa using trailingCloses_replicate 0 fails

theorem wrapped_not_mem_lineTokens (head text : Text) : .wrapped head ∉ lineTokens false text := by
  simp only [lineTokens, List.mem_append, not_or]
  refine ⟨⟨by simp, ?_⟩, by simp⟩
  simp only [opening]
  split
  · simp
  · split <;> simp

theorem isFullWidth_eq_false {line wider : Text} (narrow : Text.byteLength wider < wrapWidth)
    (shorter : Text.byteLength line ≤ Text.byteLength wider) : isFullWidth line = false := by
  simp only [isFullWidth, decide_eq_false_iff_not]
  omega

theorem isFullWidth_of_suffix {line wider : Text} (narrow : Text.byteLength wider < wrapWidth)
    (suffix : line <:+ wider) : isFullWidth line = false := by
  obtain ⟨front, rfl⟩ := suffix
  apply isFullWidth_eq_false narrow
  rw [Text.byteLength_append]
  exact Nat.le_add_left _ _

theorem isFullWidth_dropLineEnds {line : Text} (narrow : Text.byteLength line < wrapWidth) :
    isFullWidth (Text.dropLineEnds line) = false := by
  obtain ⟨ended, same, -, -⟩ := Text.exists_dropEndWhile Text.isLineEnd line
  apply isFullWidth_eq_false narrow
  conv => rhs; rw [same, Text.byteLength_append]
  exact Nat.le_add_right _ _

end Typeset.FileToken.Joined
