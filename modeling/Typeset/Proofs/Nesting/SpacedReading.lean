import Typeset.Proofs.Nesting.SimpleLayout
import Typeset.Proofs.Nesting.StrictLayout

/-!
Lines that consist of file tokens alone, in the layout that the engine gives them: one space before
each opening parenthesis that is not the first, and nothing before a closing one.  The strict reader
takes every token of such a line, the joining reader a path and the parentheses at both ends.
-/

namespace Typeset

inductive FileEvent where
  | opens (path : AbsolutePath)
  | closes

namespace FileEvent

def text : FileEvent → Text
  | opens path => '(' :: path.text
  | closes => [')']

def mark : FileEvent → FileMark
  | opens path => .enter path.text
  | closes => .leave

def isClosing : FileEvent → Bool
  | opens _ => false
  | closes => true

def gapBefore : List FileEvent → Text
  | opens _ :: _ => [' ']
  | _ => []

def spaced : List FileEvent → Text
  | [] => []
  | event :: events => event.text ++ gapBefore events ++ spaced events

def pair (path : AbsolutePath) : List FileEvent := [opens path, closes]

def nesting? : List FileEvent → Option AbsolutePath
  | opens path :: opens _ :: _ => some path
  | _ :: events => nesting? events
  | [] => none

def opened? : FileEvent → Option AbsolutePath
  | opens path => some path
  | closes => none

def lastOpened? (events : List FileEvent) : Option AbsolutePath :=
  events.getLast?.bind opened?

def takenPath? (events : List FileEvent) : Option AbsolutePath :=
  (lastOpened? events).or (nesting? events)

def closingRun (events : List FileEvent) : Nat :=
  (events.reverse.takeWhile isClosing).length

/-- What the joining reader takes from a line: the closing parentheses at its start, one path, and
all but the first of the closing parentheses at its end. -/
def skim : List FileEvent → List FileMark
  | closes :: events => .leave :: skim events
  | events =>
      (takenPath? events).toList.map (fun path => .enter path.text) ++
        List.replicate (closingRun events - 1) .leave

variable {events : List FileEvent}

def blanksBefore (events : List FileEvent) : Blanks where
  text := gapBefore events
  blank := by
    unfold gapBefore
    split <;> simp; decide
  unbroken := by
    unfold gapBefore
    split <;> simp

def pieces : List FileEvent → List StrictPiece
  | [] => []
  | opens path :: events => .opening path (.spaced (blanksBefore events)) :: pieces events
  | closes :: events => .closing (blanksBefore events) :: pieces events

theorem text_pieces (events : List FileEvent) :
    (pieces events).flatMap StrictPiece.text = spaced events := by
  induction events with
  | nil => rfl
  | cons event events ih =>
      cases event with
      | opens path => simp [pieces, StrictPiece.text, Gap.text, spaced, text, ih, blanksBefore]
      | closes => simp [pieces, StrictPiece.text, spaced, text, ih, blanksBefore]

theorem mark_pieces (events : List FileEvent) :
    (pieces events).map StrictPiece.mark = events.map mark := by
  induction events with
  | nil => rfl
  | cons event events ih => cases event <;> simp [pieces, StrictPiece.mark, mark, ih]

theorem consume_spaced_strict (events : List FileEvent) (stack : List Path) :
    (Nesting.within .strict stack).consume (spaced events) =
      Nesting.outcome .strict (FileMark.run? stack (events.map mark)) := by
  have followed :=
    (StrictLine.printed ⟨[], by simp, by simp⟩ (pieces events)).consume_text stack
  simpa [StrictLine.text, StrictLine.marks, text_pieces, mark_pieces] using followed

open FileToken FileToken.Joined

theorem gapBefore_plain (events : List FileEvent) : ∀ c ∈ gapBefore events, isPlain c :=
  fun c member => isPlain_of_isBlank ((blanksBefore events).blank c member)

theorem opening_not_mem_gapBefore (events : List FileEvent) : '(' ∉ gapBefore events :=
  not_mem_of_isBlank (blanksBefore events).blank (by decide)

theorem exists_paren (event : FileEvent) (events : List FileEvent) :
    ∃ paren rest, isPlain paren = false ∧ spaced (event :: events) = paren :: rest := by
  cases event with
  | opens path => exact ⟨'(', _, by decide, rfl⟩
  | closes => exact ⟨')', _, by decide, rfl⟩

theorem lastOpened?_cons (event next : FileEvent) (events : List FileEvent) :
    lastOpened? (event :: next :: events) = lastOpened? (next :: events) := by
  rw [lastOpened?, lastOpened?, List.getLast?_cons_cons]

theorem lastOpened?_closes (events : List FileEvent) :
    lastOpened? (closes :: events) = lastOpened? events := by
  cases events with
  | nil => rfl
  | cons next events => exact lastOpened?_cons closes next events

theorem openAtEnd?_spaced (events : List FileEvent) :
    openAtEnd? (spaced events) = (lastOpened? events).map fun path => path.text := by
  induction events with
  | nil => rfl
  | cons event events ih =>
      cases event with
      | closes =>
          have noOpening : '(' ∉ ')' :: gapBefore events := by
            simp [opening_not_mem_gapBefore events]
          have skipped : openAtEnd? (')' :: gapBefore events ++ spaced events) =
              openAtEnd? (spaced events) := openAtEnd?_append noOpening
          rw [lastOpened?_closes, ← ih, ← skipped]
          rfl
      | opens path =>
          cases events with
          | nil =>
              have read := openAtEnd?_gap path.toUnmarkedPath (.spaced (blanksBefore []))
              simpa [spaced, text, gapBefore, blanksBefore, Gap.text, Gap.taken, lastOpened?,
                opened?] using read
          | cons next events =>
              obtain ⟨paren, rest, isParen, shown⟩ := exists_paren next events
              have chars : ∀ c ∈ path.text ++ gapBefore (next :: events), isPathChar c :=
                path.isPathChar_gap (.spaced (blanksBefore (next :: events)))
              have skipped : openAtEnd?
                  ('(' :: (path.text ++ gapBefore (next :: events)) ++ paren :: rest) =
                    openAtEnd? (paren :: rest) := openAtEnd?_paren chars isParen
              rw [lastOpened?_cons, ← ih, spaced, shown, ← skipped]
              rfl

theorem openBefore?_spaced (events : List FileEvent) (closed : lastOpened? events = none) :
    openBefore? (spaced events) = (nesting? events).map fun path => path.text := by
  induction events with
  | nil => rfl
  | cons event events ih =>
      cases event with
      | closes =>
          have noOpening : '(' ∉ ')' :: gapBefore events := by
            simp [opening_not_mem_gapBefore events]
          have skipped : openBefore? (')' :: gapBefore events ++ spaced events) =
              openBefore? (spaced events) := openBefore?_append noOpening
          rw [nesting?, ← ih (by rwa [lastOpened?_closes] at closed), ← skipped]
          · rfl
          · simp
      | opens path =>
          cases events with
          | nil => simp [lastOpened?, opened?] at closed
          | cons next events =>
              rw [lastOpened?_cons] at closed
              cases next with
              | opens inner =>
                  have read : openBefore? ('(' :: path.text ++ [' '] ++
                      '(' :: (inner.text ++ gapBefore events ++ spaced events)) =
                        some path.text :=
                    openBefore?_opening path.toPrintedPath (blanksBefore (opens inner :: events))
                  simpa [spaced, text, gapBefore, nesting?] using read
              | closes =>
                  have skipped : openBefore? ('(' :: path.text ++
                      ')' :: (gapBefore events ++ spaced events)) =
                        openBefore? (gapBefore events ++ spaced events) :=
                    openBefore?_closing path.chars
                  have noOpening : '(' ∉ [')'] := by simp
                  have behind : openBefore? ([')'] ++ (gapBefore events ++ spaced events)) =
                      openBefore? (gapBefore events ++ spaced events) :=
                    openBefore?_append noOpening
                  rw [nesting?, ← ih closed]
                  · simpa [spaced, text, gapBefore] using skipped.trans behind.symm
                  · simp

theorem opening_spaced (events : List FileEvent) :
    opening false (spaced events) =
      (takenPath? events).toList.map fun path => .opened path.text := by
  rw [opening, openAtEnd?_spaced, takenPath?]
  cases last : lastOpened? events with
  | some path => rfl
  | none =>
      rw [openBefore?_spaced events last]
      cases nesting? events <;> rfl

theorem spaced_append_closes (events : List FileEvent) (count : Nat) :
    spaced (events ++ List.replicate count closes) = spaced events ++ List.replicate count ')' := by
  induction events with
  | nil =>
      induction count with
      | zero => rfl
      | succ count ih =>
          have noGap : gapBefore (List.replicate count closes) = [] := by cases count <;> rfl
          simpa [List.replicate_succ, spaced, text, noGap] using ih
  | cons event events ih =>
      have sameGap : gapBefore (events ++ List.replicate count closes) = gapBefore events := by
        cases events with
        | nil => cases count <;> rfl
        | cons next events => cases next <;> rfl
      rw [List.cons_append, spaced, spaced, ih, sameGap, List.append_assoc _ (spaced events)]

@[simp] theorem closingRun_concat_opens (events : List FileEvent) (path : AbsolutePath) :
    closingRun (events ++ [opens path]) = 0 := by
  simp [closingRun, isClosing]

@[simp] theorem closingRun_concat_closes (events : List FileEvent) :
    closingRun (events ++ [closes]) = closingRun events + 1 := by
  rw [closingRun, List.reverse_append]
  rfl

def EndsOpen (events : List FileEvent) : Prop :=
  events = [] ∨ ∃ before path, events = before ++ [opens path]

theorem exists_closingRun (events : List FileEvent) :
    ∃ front, EndsOpen front ∧ events = front ++ List.replicate (closingRun events) closes := by
  induction events using List.reverseRecOn with
  | nil => exact ⟨[], .inl rfl, rfl⟩
  | append_singleton events event ih =>
      cases event with
      | opens path => exact ⟨events ++ [opens path], .inr ⟨events, path, rfl⟩, by simp⟩
      | closes =>
          obtain ⟨front, ends, split⟩ := ih
          refine ⟨front, ends, ?_⟩
          rw [closingRun_concat_closes, List.replicate_succ', ← List.append_assoc, ← split]

theorem exists_spaced_concat (events : List FileEvent) (path : AbsolutePath) :
    ∃ items, spaced (events ++ [opens path]) = items ++ '(' :: path.text := by
  induction events with
  | nil => exact ⟨[], by simp [spaced, text, gapBefore]⟩
  | cons event events ih =>
      obtain ⟨items, same⟩ := ih
      refine ⟨event.text ++ gapBefore (events ++ [opens path]) ++ items, ?_⟩
      rw [List.cons_append, spaced, same, List.append_assoc _ items]

theorem EndsOpen.getLast?_ne_closing (ends : EndsOpen events) (blanks : List FileEvent) :
    ∀ last ∈ (gapBefore blanks ++ spaced events).getLast?, last ≠ ')' := by
  rcases ends with rfl | ⟨before, path, rfl⟩
  · rintro last isLast rfl
    have noClosing : ')' ∉ gapBefore blanks :=
      not_mem_of_isBlank (blanksBefore blanks).blank (by decide)
    rw [spaced, List.append_nil] at isLast
    exact noClosing (List.mem_of_getLast? isLast)
  · obtain ⟨items, same⟩ := exists_spaced_concat before path
    rw [same, ← List.append_assoc]
    exact FileToken.Joined.getLast?_ne_closing _ path.chars

theorem trailingCloses_spaced (blanks events : List FileEvent) :
    trailingCloses (gapBefore blanks ++ spaced events) = closingRun events - 1 := by
  obtain ⟨front, ends, split⟩ := exists_closingRun events
  conv => lhs; rw [split, spaced_append_closes, ← List.append_assoc]
  exact trailingCloses_replicate _ (ends.getLast?_ne_closing blanks)

theorem dropLineEnds_spaced (events : List FileEvent) :
    Text.dropLineEnds (spaced events) = spaced events := by
  apply Text.dropEndWhile_eq_self
  rcases List.eq_nil_or_concat events with rfl | ⟨before, event, rfl⟩
  · simp [spaced]
  · rw [List.concat_eq_append]
    cases event with
    | opens path =>
        obtain ⟨items, same⟩ := exists_spaced_concat before path
        rw [same]
        exact path.not_isLineEnd_getLast? items
    | closes =>
        have same : spaced (before ++ [closes]) = spaced before ++ [')'] :=
          spaced_append_closes before 1
        rw [same, List.getLast?_concat]
        simp [Text.isLineEnd]

theorem opening_gapBefore (full : Bool) (events : List FileEvent) (rest : Text) :
    opening full (gapBefore events ++ rest) = opening full rest := by
  rw [opening, openAtEnd?_append (opening_not_mem_gapBefore events),
    openBefore?_append (opening_not_mem_gapBefore events), opening]

theorem lineTokens_closing (full : Bool) (rest : Text) :
    lineTokens full (')' :: rest) = .closed :: lineTokens full rest := by
  simp only [lineTokens, leadingCloses, List.replicate_succ, List.cons_append]

theorem marks_lineTokens_opens (blanks : List FileEvent) (path : AbsolutePath)
    (events : List FileEvent) :
    (lineTokens false (gapBefore blanks ++ spaced (opens path :: events))).flatMap marks =
      skim (opens path :: events) := by
  have opensFirst : OpensFirst (gapBefore blanks ++ spaced (opens path :: events)) :=
    (opensFirst_append (gapBefore_plain blanks)).mpr (opensFirst_of_delimits (delimits_opening _))
  rw [lineTokens_of_opensFirst false opensFirst, opening_gapBefore, opening_spaced,
    trailingCloses_spaced, List.flatMap_append, flatMap_marks_closed, skim]
  · congr 1
    cases takenPath? (opens path :: events) with
    | none => rfl
    | some taken => simp [marks, taken.trimmed]
  · simp

theorem marks_lineTokens_behind (events : List FileEvent) :
    (lineTokens false (gapBefore events ++ spaced events)).flatMap marks = skim events := by
  induction events with
  | nil => rfl
  | cons event events ih =>
      cases event with
      | opens path => exact marks_lineTokens_opens (opens path :: events) path events
      | closes =>
          have read := lineTokens_closing false (gapBefore events ++ spaced events)
          rw [skim, ← ih]
          exact congrArg (List.flatMap marks) read

theorem marks_lineTokens_spaced (events : List FileEvent) :
    (lineTokens false (spaced events)).flatMap marks = skim events := by
  cases events with
  | nil => rfl
  | cons event events =>
      cases event with
      | opens path => exact marks_lineTokens_opens [] path events
      | closes => exact marks_lineTokens_behind (closes :: events)

theorem consume_spaced_fragment (events : List FileEvent) (stack : List Path)
    (narrow : Text.byteLength (spaced events) < wrapWidth) :
    (Nesting.within .fragment stack).consume (spaced events) =
      Nesting.outcome .fragment (FileMark.run? stack (skim events)) := by
  have shown := dropLineEnds_spaced events
  have width : isFullWidth (Text.dropLineEnds (spaced events)) = false :=
    isFullWidth_dropLineEnds narrow
  calc
    (Nesting.within .fragment stack).consume (spaced events) =
        (Nesting.within .fragment stack).run
          (lineTokens (isFullWidth (Text.dropLineEnds (spaced events)))
            (Text.dropLineEnds (spaced events))) := rfl
    _ = (Nesting.within .fragment stack).run (lineTokens false (spaced events)) := by
      rw [width, shown]
    _ = Nesting.outcome .fragment (FileMark.run? stack (skim events)) := by
      rw [Nesting.run_within .fragment stack fun head => wrapped_not_mem_lineTokens head _,
        marks_lineTokens_spaced]

end FileEvent

end Typeset
