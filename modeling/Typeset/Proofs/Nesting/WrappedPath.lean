import Typeset.Proofs.Nesting.JoinedReading
import Typeset.Proofs.Nesting.Mark

/-!
A path that reaches the width of the engine's lines goes on in the next line.  The two parts are
joined, and what stands behind the second part is read as if it were a line of its own.
-/

namespace Typeset

def Nesting.awaiting (stack : List Path) (head : Text) : Nesting :=
  { within .fragment stack with pending? := some head }

theorem PlainText.unbroken (plain : PlainText) : '\n' ∉ plain.text :=
  not_mem_of_isPathChar plain.plain (by decide)

namespace Text

theorem dropLineEnds_eq_self {line : Text} (unbroken : '\n' ∉ line)
    (noReturn : line.getLast? ≠ some '\r') : dropLineEnds line = line := by
  apply dropEndWhile_eq_self
  intro last isLast
  have noFeed : last ≠ '\n' := by
    rintro rfl
    exact unbroken (List.mem_of_getLast? isLast)
  have returned : last ≠ '\r' := by
    rintro rfl
    exact noReturn isLast
  simp [isLineEnd, noFeed, returned]

theorem getLast?_ne_of_suffix {text ended : Text} {c : Char} (suffix : ended <:+ text)
    (differs : text.getLast? ≠ some c) : ended.getLast? ≠ some c := by
  obtain ⟨front, rfl⟩ := suffix
  intro same
  rw [List.getLast?_append, same, Option.some_or] at differs
  exact differs rfl

end Text

namespace FileToken.Joined

theorem lineTokens_unended (full : Bool) (before head : PlainText)
    (unmarked : ¬ EndsInNumber head.text) :
    lineTokens full (before.text ++ '(' :: head.text) =
      [if full then .wrapped head.text else .opened head.text] := by
  have opensFirst : OpensFirst (before.text ++ '(' :: head.text) :=
    (opensFirst_append (forall_isPlain before.plain)).mpr
      (opensFirst_of_delimits (delimits_opening _))
  have read : openAtEnd? (before.text ++ '(' :: head.text) = some head.text := by
    rw [openAtEnd?_append (not_mem_of_isPathChar before.plain (by decide)),
      openAtEnd?_unmarked head.plain unmarked]
  have counted : trailingCloses (before.text ++ '(' :: head.text) = 0 :=
    trailingCloses_eq_zero (getLast?_ne_closing before.text head.plain)
  rw [lineTokens_of_opensFirst full opensFirst, opening, read, counted]
  rfl

section Continuation

variable (full : Bool) (head : Text) (tail : PlainText)

theorem continuation_append {rest : Text} (ends : Text.Stops isPlain rest) :
    (tail.text ++ rest).takeWhile (fun c => c ≠ '(' && c ≠ ')') = tail.text ∧
      (tail.text ++ rest).dropWhile (fun c => c ≠ '(' && c ≠ ')') = rest := by
  have plain : ∀ c ∈ tail.text, isPlain c := forall_isPlain tail.plain
  exact ⟨Text.takeWhile_append_stop plain ends, Text.dropWhile_append_stop plain ends⟩

theorem continuation_end : continuation full head tail.text = [.opened (head ++ tail.text)] := by
  obtain ⟨taken, dropped⟩ := continuation_append tail Text.Stops.nil
  rw [List.append_nil] at taken dropped
  simp only [continuation, taken, dropped]

theorem continuation_opening (rest : Text) :
    continuation full head (tail.text ++ '(' :: rest) =
      .opened (head ++ tail.text) :: lineTokens full ('(' :: rest) := by
  have ends : Text.Stops isPlain ('(' :: rest) := Text.Stops.cons (by decide) rest
  obtain ⟨taken, dropped⟩ := continuation_append tail ends
  simp only [continuation, taken, dropped]
  rfl

theorem continuation_closing (rest : Text) :
    continuation full head (tail.text ++ ')' :: rest) =
      .passed (head ++ tail.text) :: lineTokens full rest := by
  have ends : Text.Stops isPlain (')' :: rest) := Text.Stops.cons (by decide) rest
  obtain ⟨taken, dropped⟩ := continuation_append tail ends
  simp only [continuation, taken, dropped]

end Continuation

end FileToken.Joined

namespace Nesting

open FileToken FileToken.Joined

variable {nesting : Nesting} {line : Text}

section Lines

variable (joins : nesting.rule = .fragment)

include joins

theorem consume_of_not_pending (nothing : nesting.pending? = none) (line : Text) :
    let shown := Text.dropLineEnds line
    nesting.consume line = nesting.run (lineTokens (isFullWidth shown) shown) := by
  obtain ⟨rule, files, pending?⟩ := nesting
  cases joins
  cases nothing
  rfl

theorem consume_of_pending {start : Text} (pending : nesting.pending? = some start)
    (unbroken : '\n' ∉ line) :
    let shown := Text.dropLineEnds line
    nesting.consume line =
      { nesting with pending? := none }.run (continuation (isFullWidth shown) start shown) := by
  have whole : '\n' ∉ Text.dropLineEnds line := mt Text.mem_of_mem_dropEndWhile unbroken
  simp only [consume, read, joins, pending, tokens?, if_neg whole]

end Lines

theorem consume_within_fragment (stack : List Path) (unbroken : '\n' ∉ line)
    (noReturn : line.getLast? ≠ some '\r') :
    (within .fragment stack).consume line =
      (within .fragment stack).run (lineTokens (isFullWidth line) line) := by
  have consumed := @consume_of_not_pending (within .fragment stack) rfl rfl line
  rwa [Text.dropLineEnds_eq_self unbroken noReturn] at consumed

theorem consume_awaiting (stack : List Path) (head : Text) (unbroken : '\n' ∉ line)
    (noReturn : line.getLast? ≠ some '\r') :
    (awaiting stack head).consume line =
      (within .fragment stack).run (continuation (isFullWidth line) head line) := by
  have consumed := @consume_of_pending (awaiting stack head) line rfl head rfl unbroken
  rwa [Text.dropLineEnds_eq_self unbroken noReturn] at consumed

theorem consume_unended (stack : List Path) (before head : PlainText)
    (wide : wrapWidth ≤ Text.byteLength (before.text ++ '(' :: head.text))
    (noReturn : head.text.getLast? ≠ some '\r') (unmarked : ¬ EndsInNumber head.text) :
    (within .fragment stack).consume (before.text ++ '(' :: head.text) =
      (awaiting stack head.text, none) := by
  have unbroken : '\n' ∉ before.text ++ '(' :: head.text := by
    simp [before.unbroken, head.unbroken]
  have ends : (before.text ++ '(' :: head.text).getLast? ≠ some '\r' := by
    rw [List.getLast?_append, List.getLast?_cons, Option.some_or]
    cases last : head.text.getLast? with
    | none => decide
    | some c => exact fun same => noReturn (last.trans same)
  have full : isFullWidth (before.text ++ '(' :: head.text) = true := by
    simpa [isFullWidth] using wide
  rw [consume_within_fragment stack unbroken ends, lineTokens_unended _ before head unmarked, full]
  rfl

section Continuation

variable (stack : List Path) (head : Text) (tail : PlainText) {rest : Text}

theorem consume_awaiting_end (noReturn : tail.text.getLast? ≠ some '\r') :
    (awaiting stack head).consume tail.text =
      (within .fragment (Text.trimEnd (head ++ tail.text) :: stack), none) := by
  rw [consume_awaiting stack head tail.unbroken noReturn, continuation_end]
  rfl

theorem consume_awaiting_opening (unbroken : '\n' ∉ rest)
    (noReturn : (tail.text ++ '(' :: rest).getLast? ≠ some '\r')
    (narrow : Text.byteLength (tail.text ++ '(' :: rest) < wrapWidth) :
    (awaiting stack head).consume (tail.text ++ '(' :: rest) =
      (within .fragment (Text.trimEnd (head ++ tail.text) :: stack)).consume ('(' :: rest) := by
  have suffix : '(' :: rest <:+ tail.text ++ '(' :: rest := List.suffix_append _ _
  have unbrokenRest : '\n' ∉ '(' :: rest := by simp [unbroken]
  have unbrokenLine : '\n' ∉ tail.text ++ '(' :: rest := by simp [tail.unbroken, unbroken]
  rw [consume_awaiting stack head unbrokenLine noReturn, continuation_opening,
    consume_within_fragment _ unbrokenRest (Text.getLast?_ne_of_suffix suffix noReturn),
    isFullWidth_of_suffix narrow List.suffix_rfl, isFullWidth_of_suffix narrow suffix]
  rfl

theorem consume_awaiting_closing (unbroken : '\n' ∉ rest)
    (noReturn : (tail.text ++ ')' :: rest).getLast? ≠ some '\r')
    (narrow : Text.byteLength (tail.text ++ ')' :: rest) < wrapWidth) :
    (awaiting stack head).consume (tail.text ++ ')' :: rest) =
      (within .fragment stack).consume rest := by
  have suffix : rest <:+ tail.text ++ ')' :: rest :=
    (List.suffix_cons ')' rest).trans (List.suffix_append _ _)
  have unbrokenLine : '\n' ∉ tail.text ++ ')' :: rest := by simp [tail.unbroken, unbroken]
  rw [consume_awaiting stack head unbrokenLine noReturn, continuation_closing,
    consume_within_fragment _ unbroken (Text.getLast?_ne_of_suffix suffix noReturn),
    isFullWidth_of_suffix narrow List.suffix_rfl, isFullWidth_of_suffix narrow suffix]
  rfl

end Continuation

/-- A path that is cut by the width of the lines is joined with its continuation.  It is opened if
the line ends there or another file is opened; a parenthesis that closes it leaves no trace. -/
theorem wrapped_path_is_joined (stack : List Path) (before head tail : PlainText) (rest : Text)
    (wide : wrapWidth ≤ Text.byteLength (before.text ++ '(' :: head.text))
    (headNoReturn : head.text.getLast? ≠ some '\r') (unmarked : ¬ EndsInNumber head.text)
    (unbroken : '\n' ∉ rest) (restNoReturn : (tail.text ++ rest).getLast? ≠ some '\r')
    (narrow : Text.byteLength (tail.text ++ rest) < wrapWidth) :
    let path := Text.trimEnd (head.text ++ tail.text)
    (within .fragment stack).consume (before.text ++ '(' :: head.text) =
        (awaiting stack head.text, none) ∧
      (rest = [] → (awaiting stack head.text).consume (tail.text ++ rest) =
        (within .fragment (path :: stack), none)) ∧
      (∀ others, rest = '(' :: others → (awaiting stack head.text).consume (tail.text ++ rest) =
        (within .fragment (path :: stack)).consume rest) ∧
      ∀ others, rest = ')' :: others → (awaiting stack head.text).consume (tail.text ++ rest) =
        (within .fragment stack).consume others := by
  refine ⟨consume_unended stack before head wide headNoReturn unmarked, ?_, ?_, ?_⟩
  · rintro rfl
    rw [List.append_nil] at restNoReturn ⊢
    exact consume_awaiting_end stack head.text tail restNoReturn
  · rintro others rfl
    have unbrokenOthers : '\n' ∉ others := fun member => unbroken (List.mem_cons_of_mem _ member)
    exact consume_awaiting_opening stack head.text tail unbrokenOthers restNoReturn narrow
  · rintro others rfl
    have unbrokenOthers : '\n' ∉ others := fun member => unbroken (List.mem_cons_of_mem _ member)
    exact consume_awaiting_closing stack head.text tail unbrokenOthers restNoReturn narrow

/-- The width counts bytes: forty letters of two bytes reach it. -/
theorem wide_letters_are_joined :
    let head : Text := List.replicate 40 'ü'
    (within .fragment []).consume ('(' :: head) = (awaiting [] head, none) ∧
      (awaiting [] head).consume "b.tex (./c.tex" =
        (within .fragment ["./c.tex", head ++ "b.tex"], none) := by
  have unmarked : ¬ EndsInNumber (List.replicate 40 'ü') := fun ends =>
    absurd ends.getLast? (by decide)
  let head : PlainText := ⟨List.replicate 40 'ü', List.all_eq_true.mp (by decide)⟩
  let tail : PlainText := ⟨"b.tex ", List.all_eq_true.mp (by decide)⟩
  obtain ⟨pending, -, opened, -⟩ := wrapped_path_is_joined [] ⟨[], by simp⟩ head tail "(./c.tex"
    (by decide) (by decide) unmarked (by decide) (by decide) (by decide)
  exact ⟨pending, (opened "./c.tex" rfl).trans (by decide)⟩

end Nesting

end Typeset
