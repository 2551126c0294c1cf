import Typeset.Proofs.Nesting.Printed

/-!
What the recognisers find in printed pieces.  An opening parenthesis is found where it stands, its
path reaches to the next parenthesis or to the end of the text, and a pair opens nothing.
-/

namespace Typeset.FileToken

variable {α : Type}

def isPlain (c : Char) : Bool :=
  c ≠ '(' && c ≠ ')'

abbrev Delimits (text : Text) : Prop :=
  Text.Stops (fun c => c ≠ '(') text

theorem isPlain_of_isPathChar {c : Char} (isChar : isPathChar c = true) : isPlain c = true := by
  obtain ⟨noOpening, noClosing, -⟩ := (isPathChar_iff c).mp isChar
  simp [isPlain, noOpening, noClosing]

theorem forall_isPlain {text : Text} (chars : ∀ c ∈ text, isPathChar c) :
    ∀ c ∈ text, isPlain c := fun c member => isPlain_of_isPathChar (chars c member)

theorem isPlain_of_isBlank {c : Char} (blank : Text.isBlank c = true) : isPlain c = true := by
  have noOpening : c ≠ '(' := isBlank_ne blank (by decide)
  have noClosing : c ≠ ')' := isBlank_ne blank (by decide)
  simp [isPlain, noOpening, noClosing]

theorem isPlain_of_isMarker {text : Text} (marker : IsMarker text) : ∀ c ∈ text, isPlain c := by
  obtain ⟨blanks, number, blank, rfl⟩ := marker
  intro c member
  rcases List.mem_append.mp member with member | member
  · exact isPlain_of_isBlank (blank c member)
  · exact isPlain_of_isPathChar (number.isPathChar c member)

theorem delimits_nil : Delimits [] :=
  Text.Stops.nil

theorem delimits_of_eq_nil {text : Text} (ended : text = []) : Delimits text :=
  ended ▸ delimits_nil

theorem delimits_opening (rest : Text) : Delimits ('(' :: rest) :=
  Text.Stops.cons (by decide) rest

theorem Delimits.eq_opening {first : Char} {rest : Text} (delimits : Delimits (first :: rest)) :
    first = '(' := by
  simpa using delimits first rfl

theorem Delimits.stops {test : Char → Bool} {text : Text} (delimits : Delimits text)
    (fails : test '(' = false) : Text.Stops test text := by
  cases text with
  | nil => exact Text.Stops.nil
  | cons first rest =>
      rw [delimits.eq_opening]
      exact Text.Stops.cons fails rest

def StopsAt (place : Text → Prop) (stop? : Text → Option α) : Prop :=
  ∀ {text : Text} {found : α}, stop? text = some found → place text

theorem stopsAt_atEnd? : StopsAt (fun text => text = []) atEnd? := by
  intro text found stopped
  cases text with
  | nil => rfl
  | cons head tail => simp [atEnd?] at stopped

theorem stopsAt_atOpening? : StopsAt Delimits atOpening? := by
  intro text found stopped
  unfold atOpening? at stopped
  split at stopped
  · exact delimits_nil
  · exact delimits_opening _
  · simp at stopped

theorem atOpening?_of_delimits {rest : Text} (delimits : Delimits rest) :
    atOpening? rest = some rest := by
  cases rest with
  | nil => rfl
  | cons head tail =>
      rw [delimits.eq_opening]
      rfl

theorem pageMarker?_append {blanks : Text} (number : PageNumber)
    (blank : ∀ c ∈ blanks, Text.isBlank c) (rest : Text) :
    pageMarker? (blanks ++ number.text ++ rest) = some rest := by
  obtain ⟨first, others, split⟩ := List.exists_cons_of_ne_nil number.nonempty
  have bracket : Text.Stops Text.isDecimalDigit (']' :: rest) := Text.Stops.cons (by decide) rest
  have opened : (blanks ++ number.text ++ rest).dropWhile Text.isBlank =
      '[' :: (number.digits ++ ']' :: rest) := by
    simpa [PageNumber.text] using Text.dropWhile_append_stop blank
      (Text.Stops.cons (by decide) (number.digits ++ ']' :: rest))
  have digits := Text.takeWhile_append_stop number.decimal bracket
  have closed := Text.dropWhile_append_stop number.decimal bracket
  rw [split] at digits closed
  simp only [pageMarker?, opened, split, digits, closed]

theorem exists_of_pageMarker? {text rest : Text} (marked : pageMarker? text = some rest) :
    ∃ marker, IsMarker marker ∧ text = marker ++ rest := by
  simp only [pageMarker?] at marked
  split at marked
  · next inner start =>
      split at marked
      · next _ _ _ digits stop =>
          cases marked
          let number : PageNumber := {
            digits := inner.takeWhile Text.isDecimalDigit
            nonempty := by simp [digits]
            decimal := fun c member => List.mem_takeWhile_imp member }
          refine ⟨text.takeWhile Text.isBlank ++ number.text, ⟨_, number, ?_, rfl⟩, ?_⟩
          · exact fun c member => List.mem_takeWhile_imp member
          · have whole : text.takeWhile Text.isBlank ++ text.dropWhile Text.isBlank = text :=
              List.takeWhile_append_dropWhile
            have within : inner.takeWhile Text.isDecimalDigit ++
                inner.dropWhile Text.isDecimalDigit = inner := List.takeWhile_append_dropWhile
            rw [start, ← within] at whole
            simp_all [number, PageNumber.text]
      · simp at marked
  · simp at marked

theorem of_afterMarker? {place : Text → Prop} {stop? : Text → Option α}
    (stops : StopsAt place stop?) (places : ∀ text, place text → Text.Stops isPlain text)
    {run rest : Text} {found : α} (plain : ∀ c ∈ run, isPlain c)
    (ends : Text.Stops isPlain rest) (stopped : afterMarker? stop? (run ++ rest) = some found) :
    place rest ∧ (run = [] ∨ IsMarker run) := by
  simp only [afterMarker?, Option.or_eq_some_iff, Option.bind_eq_some_iff] at stopped
  rcases stopped with ⟨afterwards, marked, stopped⟩ | ⟨-, stopped⟩
  · obtain ⟨marker, isMarker, same⟩ := exists_of_pageMarker? marked
    obtain ⟨rfl, rfl⟩ := Text.run_unique same plain (isPlain_of_isMarker isMarker) ends
      (places afterwards (stops stopped))
    exact ⟨stops stopped, .inr isMarker⟩
  · cases run with
    | nil => exact ⟨stops stopped, .inl rfl⟩
    | cons first others =>
        have fails := places _ (stops stopped) first rfl
        simp [plain first List.mem_cons_self] at fails

theorem shortestPath?_append {stop? : Text → Option α} {path rest : Text}
    (chars : ∀ c ∈ path, isPathChar c)
    (going : ∀ after, after <:+ path → after ≠ [] → stop? (after ++ rest) = none) :
    shortestPath? stop? (path ++ rest) =
      (shortestPath? stop? rest).map fun (more, found) => (path ++ more, found) := by
  induction path with
  | nil => simp
  | cons head tail ih =>
      have notYet : stop? (head :: (tail ++ rest)) = none :=
        going (head :: tail) (List.suffix_refl _) (by simp)
      have isChar : isPathChar head = true := chars head List.mem_cons_self
      have later := ih (fun c member => chars c (List.mem_cons_of_mem head member))
        fun after suffix nonempty =>
          going after (suffix.trans (List.suffix_cons head tail)) nonempty
      rw [List.cons_append, shortestPath?, notYet]
      simp only [isChar, if_true, later, Option.map_map]
      rfl

theorem shortestPath?_of_stop {stop? : Text → Option α} {text : Text} {found : α}
    (stopped : stop? text = some found) : shortestPath? stop? text = some ([], found) := by
  cases text <;> simp [shortestPath?, stopped]

theorem shortestPath?_eq_none {stop? : Text → Option α} {head : Char} {rest : Text}
    (going : stop? (head :: rest) = none) (noChar : isPathChar head = false) :
    shortestPath? stop? (head :: rest) = none := by
  simp [shortestPath?, going, noChar]

theorem shortestPath?_unended {stop? : Text → Option α} {run rest : Text} {paren : Char}
    (chars : ∀ c ∈ run, isPathChar c) (isParen : isPathChar paren = false)
    (going : ∀ after, (∀ c ∈ after, isPathChar c) → stop? (after ++ paren :: rest) = none) :
    shortestPath? stop? (run ++ paren :: rest) = none := by
  have notHere : shortestPath? stop? (paren :: rest) = none :=
    shortestPath?_eq_none (by simpa using going [] (by simp)) isParen
  rw [shortestPath?_append chars, notHere, Option.map_none]
  intro after suffix nonempty
  exact going after fun c member => chars c (suffix.subset member)

section Stop

variable {place : Text → Prop} {stop? : Text → Option α} {rest : Text} {found : α}

theorem afterMarker?_eq_none (stops : StopsAt place stop?)
    (places : ∀ text, place text → Delimits text) (delimits : Delimits rest) {run : Text}
    (chars : ∀ c ∈ run, isPathChar c) (nonempty : run ≠ []) (unmarked : ¬ IsMarker run) :
    afterMarker? stop? (run ++ rest) = none := by
  rw [Option.eq_none_iff_forall_ne_some]
  intro found stopped
  obtain ⟨-, empty | marker⟩ := of_afterMarker? stops
    (fun text isPlace => (places text isPlace).stops (by decide)) (forall_isPlain chars)
    (delimits.stops (by decide)) stopped
  · exact nonempty empty
  · exact unmarked marker

theorem afterMarker?_of_delimits (delimits : Delimits rest) (stopped : stop? rest = some found) :
    afterMarker? stop? rest = some found := by
  have noMarker : pageMarker? rest = none := by
    cases rest with
    | nil => rfl
    | cons head others =>
        rw [delimits.eq_opening]
        rfl
  rw [afterMarker?, noMarker, Option.bind_none, Option.none_or, stopped]

theorem shortestPath?_unmarked (stops : StopsAt place stop?)
    (places : ∀ text, place text → Delimits text) {run : Text} (chars : ∀ c ∈ run, isPathChar c)
    (unmarked : ¬ EndsInNumber run) (delimits : Delimits rest) (stopped : stop? rest = some found) :
    shortestPath? (afterMarker? stop?) (run ++ rest) = some (run, found) := by
  rw [shortestPath?_append chars, shortestPath?_of_stop (afterMarker?_of_delimits delimits stopped)]
  · simp
  · intro after suffix nonempty
    exact afterMarker?_eq_none stops places delimits
      (fun c member => chars c (suffix.subset member)) nonempty
      fun marker => unmarked (marker.endsInNumber.of_suffix suffix)

/-- A printed path, or the end of one, is read up to the blanks before the last marker. -/
theorem shortestPath?_marked (stops : StopsAt place stop?)
    (places : ∀ text, place text → Delimits text) (path : PrintedPath) {tail : Text}
    (suffix : tail <:+ path.text) (blanks : Blanks) (number : PageNumber)
    (delimits : Delimits rest) (stopped : stop? rest = some found) :
    shortestPath? (afterMarker? stop?) (tail ++ (blanks.text ++ number.text) ++ rest) =
      some (tail, found) := by
  have stopsHere : afterMarker? stop? (blanks.text ++ number.text ++ rest) = some found := by
    rw [afterMarker?, pageMarker?_append number blanks.blank, Option.bind_some, stopped,
      Option.some_or]
  rw [List.append_assoc, shortestPath?_append fun c member => path.chars c (suffix.subset member),
    shortestPath?_of_stop stopsHere]
  · simp
  · intro after within nonempty
    have afterChars : ∀ c ∈ after, isPathChar c := fun c member =>
      path.chars c (suffix.subset (within.subset member))
    have chars : ∀ c ∈ after ++ blanks.text ++ number.text, isPathChar c :=
      List.forall_mem_append.mpr
        ⟨List.forall_mem_append.mpr ⟨afterChars, blanks.isPathChar⟩, number.isPathChar⟩
    have unmarked := not_isMarker_append blanks.text number path.trimmed
      (within.trans suffix) nonempty
    simpa [List.append_assoc] using
      afterMarker?_eq_none stops places delimits chars (by simp [nonempty]) unmarked

theorem shortestPath?_gap (stops : StopsAt place stop?)
    (places : ∀ text, place text → Delimits text) (path : UnmarkedPath) {tail : Text}
    (suffix : tail <:+ path.text) (gap : Gap) (delimits : Delimits rest)
    (stopped : stop? rest = some found) :
    shortestPath? (afterMarker? stop?) (tail ++ gap.text ++ rest) =
      some (tail ++ gap.taken, found) := by
  cases gap with
  | spaced blanks =>
      have chars : ∀ c ∈ tail ++ blanks.text, isPathChar c :=
        List.forall_mem_append.mpr
          ⟨fun c member => path.chars c (suffix.subset member), blanks.isPathChar⟩
      have unmarked : ¬ EndsInNumber (tail ++ blanks.text) :=
        not_endsInNumber_append_blanks (fun ends => path.unmarked (ends.of_suffix suffix))
          blanks.blank
      exact shortestPath?_unmarked stops places chars unmarked delimits stopped
  | marked blanks number =>
      rw [Gap.taken, List.append_nil]
      exact shortestPath?_marked stops places path.toPrintedPath suffix blanks number delimits
        stopped

end Stop

theorem firstOpening?_append {path? : Text → Option α} {text : Text} (noOpening : '(' ∉ text)
    (rest : Text) : firstOpening? path? (text ++ rest) = firstOpening? path? rest := by
  induction text with
  | nil => rfl
  | cons head tail ih =>
      rw [List.mem_cons, not_or] at noOpening
      rw [List.cons_append, firstOpening?, if_neg (Ne.symm noOpening.1), Option.none_or,
        ih noOpening.2]

theorem firstOpening?_eq_none {path? : Text → Option α} {text : Text} (noOpening : '(' ∉ text) :
    firstOpening? path? text = none := by
  rw [← List.append_nil text, firstOpening?_append noOpening, firstOpening?]

theorem firstOpening?_opening (path? : Text → Option α) (rest : Text) :
    firstOpening? path? ('(' :: rest) = (path? rest).or (firstOpening? path? rest) := rfl

end Typeset.FileToken
