import Typeset.Proofs.Nesting.WellFormed
import Typeset.Proofs.Nesting.WrappedPath

/-!
Lines of full width that end inside a path.  Behind a last parenthesis that opens, the path stays
pending, whatever the line closes and completes before it.  A line without parentheses always
completes the pending path, also where it is as wide as the lines can be.
-/

namespace Typeset

namespace FileToken.Joined

theorem shortestPath?_atEnd?_eq_none {text : Text} (opens : '(' ∈ text) :
    shortestPath? (afterMarker? atEnd?) text = none := by
  rw [Option.eq_none_iff_forall_ne_some]
  rintro ⟨path, found⟩ read
  obtain ⟨chars, rest, rfl, stopped⟩ := of_shortestPath? read
  rcases List.mem_append.mp opens with inPath | inRest
  · exact absurd (chars '(' inPath) (by decide)
  · exact absurd (isPlain_of_atEnd? stopped '(' inRest) (by decide)

theorem openAtEnd?_behind (before : Text) {rest : Text} (opens : '(' ∈ rest) :
    openAtEnd? (before ++ rest) = openAtEnd? rest := by
  induction before with
  | nil => rfl
  | cons first others ih =>
      have unended : shortestPath? (afterMarker? atEnd?) (others ++ rest) = none :=
        shortestPath?_atEnd?_eq_none (List.mem_append_right others opens)
      rw [openAtEnd?] at ih ⊢
      rw [List.cons_append, firstOpening?, unended, ite_self, Option.none_or, ih, openAtEnd?]

theorem exists_leadingCloses_opening (held before rest : Text) :
    ∃ front, (leadingCloses held (before ++ '(' :: rest)).2 = front ++ '(' :: rest := by
  induction before generalizing held with
  | nil => exact ⟨held, rfl⟩
  | cons first others ih =>
      rw [List.cons_append]
      unfold leadingCloses
      split
      · next same =>
          obtain ⟨-, rfl⟩ := List.cons.inj same
          exact ih _
      · next same =>
          obtain ⟨-, rfl⟩ := List.cons.inj same
          exact ih []
      · exact ⟨held ++ first :: others, by simp⟩

section Opens

variable (full : Bool) (before : Text) {head : PlainText} (unmarked : ¬ EndsInNumber head.text)

include unmarked

theorem exists_lineTokens_opening :
    ∃ count, lineTokens full (before ++ '(' :: head.text) =
      List.replicate count .closed ++
        [if full then .wrapped head.text else .opened head.text] := by
  obtain ⟨front, left⟩ := exists_leadingCloses_opening [] before head.text
  have read : openAtEnd? (front ++ '(' :: head.text) = some head.text := by
    rw [openAtEnd?_behind front List.mem_cons_self, openAtEnd?_unmarked head.plain unmarked]
  have shut : trailingCloses (front ++ '(' :: head.text) = 0 :=
    trailingCloses_eq_zero (getLast?_ne_closing front head.plain)
  refine ⟨(leadingCloses [] (before ++ '(' :: head.text)).1, ?_⟩
  simp only [lineTokens, left, opening, read, shut, List.replicate_zero, List.append_nil]

theorem exists_continuation_opening (start : Text) :
    let line := before ++ '(' :: head.text
    let path := start ++ line.takeWhile isPlain
    ∃ first count, (first = .opened path ∨ first = .passed path) ∧
      continuation full start line = first :: (List.replicate count .closed ++
        [if full then .wrapped head.text else .opened head.text]) := by
  intro line path
  have dropped : line.dropWhile (fun c => c ≠ '(' && c ≠ ')') =
      before.dropWhile isPlain ++ '(' :: head.text := by
    change line.dropWhile isPlain = _
    rw [List.dropWhile_append]
    split
    · next ended =>
        rw [List.isEmpty_iff.mp ended]
        rfl
    · rfl
  have stops := List.head?_dropWhile_not isPlain before
  cases left : before.dropWhile isPlain with
  | nil =>
      obtain ⟨count, tokens⟩ := exists_lineTokens_opening full [] unmarked
      rw [left] at dropped
      refine ⟨.opened path, count, .inl rfl, ?_⟩
      rw [← tokens]
      simp only [continuation, dropped]
      rfl
  | cons paren front =>
      rw [left] at dropped stops
      have isParen : paren = '(' ∨ paren = ')' := by
        simpa [isPlain, or_iff_not_imp_left] using stops
      rcases isParen with rfl | rfl
      · obtain ⟨count, tokens⟩ := exists_lineTokens_opening full ('(' :: front) unmarked
        refine ⟨.opened path, count, .inl rfl, ?_⟩
        rw [← tokens]
        simp only [continuation, dropped]
        rfl
      · obtain ⟨count, tokens⟩ := exists_lineTokens_opening full front unmarked
        refine ⟨.passed path, count, .inr rfl, ?_⟩
        rw [← tokens]
        simp only [continuation, dropped]
        rfl

end Opens

theorem lineTokens_plain (full : Bool) (plain : PlainText) : lineTokens full plain.text = [] := by
  have noOpening : '(' ∉ plain.text := not_mem_of_isPathChar plain.plain (by decide)
  have opensFirst : OpensFirst (plain.text ++ []) :=
    (opensFirst_append (forall_isPlain plain.plain)).mpr (opensFirst_of_delimits delimits_nil)
  have shut : trailingCloses plain.text = 0 := by
    apply trailingCloses_eq_zero
    rintro _ isLast rfl
    exact not_mem_of_isPathChar plain.plain (by decide) (List.mem_of_getLast? isLast)
  rw [List.append_nil] at opensFirst
  rw [lineTokens_of_opensFirst full opensFirst, opening, openAtEnd?_eq_none noOpening,
    openBefore?_eq_none noOpening, shut]
  rfl

end FileToken.Joined

namespace Nesting

open FileToken FileToken.Joined

variable {nesting next : Nesting} {line seen : Text}

theorem of_run_closes_wrapped {count : Nat} {head : Text}
    (followed : nesting.run (List.replicate count .closed ++ [.wrapped head]) = (next, none)) :
    next = { nesting with
      files := ⟨nesting.files.innermostFirst.drop count⟩, pending? := some head } := by
  induction count generalizing nesting with
  | zero => exact (Prod.ext_iff.mp followed).1.symm
  | succ count ih =>
      rw [List.replicate_succ, List.cons_append, run] at followed
      cases applied : nesting.apply .closed with
      | error fault => simp [applied] at followed
      | ok middle =>
          rw [applied] at followed
          rcases apply_cases applied with
            ⟨path, kind, -⟩ | ⟨path, outer, -, files, rfl⟩ | ⟨head, kind, -⟩ | ⟨kind | ⟨path, kind⟩, -⟩
          · cases kind
          · rw [ih followed, files]
            rfl
          · cases kind
          · cases kind
          · cases kind

/-- A line that ends inside a path, and the text of that path as far as it has been seen. -/
inductive EndsInPath (nesting : Nesting) : Text → Text → Prop
  | opened (before : Text) (head : PlainText) :
      EndsInPath nesting (before ++ '(' :: head.text) head.text
  /-- There is no parenthesis, and the path is that of the line before. -/
  | continued {start : Text} (pending : nesting.pending? = some start) (more : PlainText) :
      EndsInPath nesting more.text (start ++ more.text)

/-- The path that a line ends inside of is left pending, and nothing is opened for it.  All that the
line can open is the path that it completes. -/
structure GoesOn (nesting next : Nesting) (line seen : Text) : Prop where
  pending : next.pending? = some seen
  files : ∃ (entered : List Path) (count : Nat),
    next.files.innermostFirst = (entered ++ nesting.files.innermostFirst).drop count ∧
      (entered = [] ∨ ∃ start, nesting.pending? = some start ∧ '(' ∈ line ∧
        entered = [Text.trimEnd (start ++ line.takeWhile isPlain)])

theorem exists_plainText (unbroken : '\n' ∉ line)
    (chars : ∀ c ∈ Text.dropLineEnds line, isPathChar c) :
    ∃ plain : PlainText, plain.text = line := by
  obtain ⟨ended, split, ends, -⟩ := Text.exists_dropEndWhile Text.isLineEnd line
  refine ⟨⟨line, fun c member => ?_⟩, rfl⟩
  have noFeed : c ≠ '\n' := fun same => unbroken (same ▸ member)
  rw [split] at member
  rcases List.mem_append.mp member with inShown | inEnded
  · exact chars c inShown
  · have isReturn : c = '\r' := by simpa [Text.isLineEnd, noFeed] using ends c inEnded
    rw [isReturn]
    decide

section Lines

variable (joins : nesting.rule = .fragment)

include joins

theorem goesOn_of_opening {before : Text} {head : PlainText} (unbroken : '\n' ∉ line)
    (wide : wrapWidth ≤ Text.byteLength (Text.dropLineEnds line))
    (shown : Text.dropLineEnds line = before ++ '(' :: head.text)
    (unmarked : ¬ EndsInNumber head.text) (followed : nesting.consume line = (next, none)) :
    nesting.GoesOn next (Text.dropLineEnds line) head.text := by
  have full : isFullWidth (Text.dropLineEnds line) = true := by simpa [isFullWidth] using wide
  cases pending : nesting.pending? with
  | none =>
      obtain ⟨count, tokens⟩ := exists_lineTokens_opening true before unmarked
      rw [consume_of_not_pending joins pending, full, shown, tokens] at followed
      rw [of_run_closes_wrapped followed]
      exact ⟨rfl, [], count, rfl, .inl rfl⟩
  | some start =>
      obtain ⟨first, count, kind, tokens⟩ := exists_continuation_opening true before unmarked start
      rw [consume_of_pending joins pending unbroken, full, shown, tokens] at followed
      rcases kind with rfl | rfl
      · rw [run_cons_ok rfl] at followed
        rw [of_run_closes_wrapped followed]
        exact ⟨rfl, [_], count, rfl, .inr ⟨start, pending, by simp [shown], by rw [shown]⟩⟩
      · rw [run_cons_ok rfl] at followed
        rw [of_run_closes_wrapped followed]
        exact ⟨rfl, [], count, rfl, .inl rfl⟩

theorem consume_plain_of_pending {start : Text} (pending : nesting.pending? = some start)
    (more : PlainText) :
    nesting.consume more.text =
      ({ nesting with files := nesting.files.push (start ++ more.text), pending? := none },
        none) := by
  obtain ⟨ended, split, ends, -⟩ := Text.exists_dropEndWhile Text.isLineEnd more.text
  have trimmed : Text.trimEnd (start ++ more.text) =
      Text.trimEnd (start ++ more.dropLineEnds.text) := by
    conv => lhs; rw [split, ← List.append_assoc]
    exact Text.trimEnd_append_blanks _ fun c member => Text.isBlank_of_isLineEnd (ends c member)
  have tokens := continuation_end (isFullWidth more.dropLineEnds.text) start more.dropLineEnds
  calc
    nesting.consume more.text =
        { nesting with pending? := none }.run [.opened (start ++ more.dropLineEnds.text)] := by
      rw [consume_of_pending joins pending more.unbroken, ← tokens]
      rfl
    _ = ({ nesting with
          files := nesting.files.push (start ++ more.text), pending? := none }, none) := by
      simp only [run, apply, OpenFiles.push, trimmed]

theorem consumeAll_plain (nothing : nesting.pending? = none) (lines : List PlainText) :
    nesting.consumeAll (lines.map PlainText.text) = (nesting, none) := by
  induction lines with
  | nil => rfl
  | cons line lines ih =>
      have silent : nesting.consume line.text = (nesting, none) := by
        rw [consume_of_not_pending joins nothing]
        exact congrArg nesting.run (lineTokens_plain _ line.dropLineEnds)
      rw [List.map_cons, consumeAll, silent]
      exact ih

/-- A line of full width that ends inside a path leaves it pending and opens nothing for it, provided
that there is a parenthesis in the line: a line without one completes the pending path, and what the
next lines have of it is lost. -/
theorem path_goes_on_behind_parenthesis :
    (∀ (line seen : Text) (next : Nesting), '\n' ∉ line →
        wrapWidth ≤ Text.byteLength (Text.dropLineEnds line) →
        ¬ EndsInNumber (Text.dropLineEnds line) →
        nesting.EndsInPath (Text.dropLineEnds line) seen → nesting.consume line = (next, none) →
        (nesting.GoesOn next (Text.dropLineEnds line) seen ↔ '(' ∈ Text.dropLineEnds line)) ∧
      ∀ (start : Text) (more : PlainText) (others : List PlainText),
        nesting.pending? = some start →
        nesting.consumeAll ((more :: others).map PlainText.text) =
          ({ nesting with files := nesting.files.push (start ++ more.text), pending? := none },
            none) := by
  constructor
  · intro line seen next unbroken wide unmarked inside followed
    generalize shown : Text.dropLineEnds line = text at inside unmarked
    cases inside with
    | opened before head =>
        rw [← shown]
        have suffix : head.text <:+ before ++ '(' :: head.text :=
          (List.suffix_cons '(' head.text).trans (List.suffix_append before _)
        have goesOn := goesOn_of_opening joins unbroken wide shown
          (mt (EndsInNumber.of_suffix suffix) unmarked) followed
        exact ⟨fun _ => by simp [shown], fun _ => goesOn⟩
    | continued pending more =>
        rw [← shown]
        obtain ⟨whole, rfl⟩ := exists_plainText unbroken (shown ▸ more.plain)
        rw [consume_plain_of_pending joins pending whole] at followed
        cases followed
        refine ⟨fun goesOn => absurd goesOn.pending (by simp), fun opens => ?_⟩
        rw [shown] at opens
        exact absurd opens (not_mem_of_isPathChar more.plain (by decide))
  · intro start more others pending
    rw [List.map_cons, consumeAll, consume_plain_of_pending joins pending]
    exact @consumeAll_plain { nesting with files := _, pending? := none } joins rfl others

end Lines

/-- The line completes `./a.tex`, which is closed at once, closes the file around it, and ends inside
of a path that is opened next. -/
theorem path_goes_on_behind_closed_files :
    let head : Text := "./" ++ List.replicate 79 'b'
    let nesting := awaiting ["main.tex"] "./"
    (nesting.consume ("a.tex)) (" ++ head)).1.pending? = some head ∧
      (nesting.consume ("a.tex)) (" ++ head)).1.files = .empty ∧
      nesting.consumeAll ["a.tex", "b.tex"] =
        (within .fragment ["./a.tex", "main.tex"], none) := by
  intro head nesting
  have chars : ∀ c ∈ head, isPathChar c := List.all_eq_true.mp (by decide)
  have unmarked : ¬ EndsInNumber ("a.tex)) (" ++ head) := fun ends =>
    absurd ends.getLast? (by decide)
  have inside : nesting.EndsInPath ("a.tex)) (" ++ head) head := .opened "a.tex)) " ⟨head, chars⟩
  obtain ⟨goesOn, lost⟩ := @path_goes_on_behind_parenthesis nesting rfl
  have left := (goesOn ("a.tex)) (" ++ head) head (nesting.consume ("a.tex)) (" ++ head)).1
    (by decide) (by decide) unmarked inside (by decide)).mpr (by decide)
  refine ⟨left.pending, by decide, ?_⟩
  exact lost "./" ⟨"a.tex", List.all_eq_true.mp (by decide)⟩
    [⟨"b.tex", List.all_eq_true.mp (by decide)⟩] rfl

/-- A path that takes three lines is opened with the text of the first two. -/
theorem third_line_of_path_is_lost :
    let head : Text := List.replicate 78 'a'
    let more : Text := List.replicate 79 'b'
    wrapWidth ≤ Text.byteLength more ∧
      (within .fragment []).consumeEach ['(' :: head, more, "c.tex"] =
        [(awaiting [] head, none), (within .fragment [head ++ more], none),
          (within .fragment [head ++ more], none)] := by
  decide +kernel

end Nesting

end Typeset
