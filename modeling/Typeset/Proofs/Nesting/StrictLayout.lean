import Typeset.Nesting.Strict
import Typeset.Proofs.Nesting.Mark
import Typeset.Proofs.Nesting.Recognise

/-!
The strict reading of lines in which absolute paths are opened and closed in any layout.  The reader
discards pairs without entering their files and searches for openings without an anchor, and still
does what the plain machine does.
-/

namespace Typeset

structure AbsolutePath extends UnmarkedPath where
  rooted : text.head? = some '/'

/-- A parenthesis of a strict log with what follows it up to the next one. -/
inductive StrictPiece where
  | opening (path : AbsolutePath) (gap : Gap)
  | closing (blanks : Blanks)

namespace StrictPiece

def text : StrictPiece → Text
  | opening path gap => '(' :: path.text ++ gap.text
  | closing blanks => ')' :: blanks.text

def mark : StrictPiece → FileMark
  | opening path _ => .enter path.text
  | closing _ => .leave

def tokens : List StrictPiece → List FileToken
  | [] => []
  | opening _ _ :: closing _ :: pieces => .pair :: tokens pieces
  | opening path gap :: pieces => .opened (path.text ++ gap.taken) :: tokens pieces
  | closing _ :: pieces => .closed :: tokens pieces

end StrictPiece

inductive StrictLine where
  | printed (blanks : Blanks) (pieces : List StrictPiece)
  | plain (text : Text) (noOpening : '(' ∉ text) (noClosing : ')' ∉ text)

namespace StrictLine

def text : StrictLine → Text
  | printed blanks pieces => blanks.text ++ pieces.flatMap StrictPiece.text
  | plain text _ _ => text

def marks : StrictLine → List FileMark
  | printed _ pieces => pieces.map StrictPiece.mark
  | plain _ _ _ => []

end StrictLine

namespace FileToken.Strict

theorem wrapped_not_mem_tokens (head text : Text) : .wrapped head ∉ tokens text := by
  induction text using tokens.induct with
  | case1 text found => simp [tokens_of_next?_none found]
  | case2 text token rest found ih =>
      rw [tokens_of_next? found, List.mem_cons, not_or]
      refine ⟨?_, ih⟩
      rintro rfl
      simp only [next?] at found
      split at found
      · simp at found
      · split at found <;> simp at found

section Pieces

variable {blanks inner rest : Text}

theorem leadingPair?_pair (blank : ∀ c ∈ blanks, Text.isBlank c)
    (chars : ∀ c ∈ inner, isPathChar c) :
    leadingPair? (blanks ++ '(' :: inner ++ ')' :: rest) = some rest := by
  have start : (blanks ++ '(' :: inner ++ ')' :: rest).dropWhile Text.isBlank =
      '(' :: (inner ++ ')' :: rest) := by
    simpa using Text.dropWhile_append_stop blank
      (Text.Stops.cons (by decide) (inner ++ ')' :: rest))
  have ends : Text.Stops isPathChar (')' :: rest) := Text.Stops.cons (by decide) rest
  have stop := Text.dropWhile_append_stop chars ends
  simp only [leadingPair?, start, stop]

theorem leadingPair?_opening (blank : ∀ c ∈ blanks, Text.isBlank c)
    (chars : ∀ c ∈ inner, isPathChar c) (delimits : Delimits rest) :
    leadingPair? (blanks ++ '(' :: inner ++ rest) = none := by
  have start : (blanks ++ '(' :: inner ++ rest).dropWhile Text.isBlank =
      '(' :: (inner ++ rest) := by
    simpa using Text.dropWhile_append_stop blank (Text.Stops.cons (by decide) (inner ++ rest))
  simp only [leadingPair?, start, Text.dropWhile_append_stop chars (delimits.stops (by decide))]
  split
  · next closed => simpa using delimits ')' rfl
  · rfl

theorem leadingPair?_eq_none (blank : ∀ c ∈ blanks, Text.isBlank c)
    (start : rest.head? ≠ some '(') (solid : Text.Stops Text.isBlank rest) :
    leadingPair? (blanks ++ rest) = none := by
  rw [leadingPair?, Text.dropWhile_append_stop blank solid]
  split
  · simp at start
  · rfl

theorem leadingClose?_closing (blank : ∀ c ∈ blanks, Text.isBlank c) :
    leadingClose? (blanks ++ ')' :: rest) = some rest := by
  rw [leadingClose?, Text.dropWhile_append_stop blank (Text.Stops.cons (by decide) rest)]
  rfl

theorem leadingClose?_eq_none (blank : ∀ c ∈ blanks, Text.isBlank c)
    (start : rest.head? ≠ some ')') (solid : Text.Stops Text.isBlank rest) :
    leadingClose? (blanks ++ rest) = none := by
  rw [leadingClose?, Text.dropWhile_append_stop blank solid]
  split
  · simp at start
  · rfl

theorem absolutePath?_gap (path : AbsolutePath) (gap : Gap) (delimits : Delimits rest) :
    absolutePath? (path.text ++ gap.text ++ rest) = some (path.text ++ gap.taken, rest) := by
  obtain ⟨tail, split⟩ := List.head?_eq_some_iff.mp path.rooted
  have suffix : tail <:+ path.text := split ▸ List.suffix_cons '/' tail
  have found := shortestPath?_gap stopsAt_atOpening? (fun _ => id) path.toUnmarkedPath suffix gap
    delimits (atOpening?_of_delimits delimits)
  rw [split, List.cons_append, List.cons_append, absolutePath?, found]
  rfl

theorem next?_pair (blank : ∀ c ∈ blanks, Text.isBlank c) (chars : ∀ c ∈ inner, isPathChar c)
    (rest : Text) :
    next? (blanks ++ '(' :: inner ++ ')' :: rest) = some (.pair, rest) := by
  rw [next?, leadingPair?_pair blank chars]

theorem next?_closing (blank : ∀ c ∈ blanks, Text.isBlank c) (rest : Text) :
    next? (blanks ++ ')' :: rest) = some (.closed, rest) := by
  rw [next?, leadingPair?_eq_none blank (by simp) (Text.Stops.cons (by decide) rest),
    leadingClose?_closing blank]

theorem next?_plain {text : Text} (noOpening : '(' ∉ text) (noClosing : ')' ∉ text) :
    next? text = none := by
  have member (c : Char) (start : (text.dropWhile Text.isBlank).head? = some c) : c ∈ text :=
    (List.dropWhile_suffix _).subset (List.mem_of_head? start)
  simp only [next?, leadingPair?, leadingClose?, firstOpening?_eq_none noOpening, Option.map_none]
  split
  · next _ pair =>
      split at pair
      · next start => exact absurd (member '(' (by rw [start]; rfl)) noOpening
      · simp at pair
  · split
    · next _ _ close =>
        split at close
        · next start => exact absurd (member ')' (by rw [start]; rfl)) noClosing
        · simp at close
    · rfl

theorem next?_of_absolutePath? {path : Text} (blank : ∀ c ∈ blanks, Text.isBlank c)
    (chars : ∀ c ∈ inner, isPathChar c) (delimits : Delimits rest)
    (read : absolutePath? (inner ++ rest) = some (path, rest)) :
    next? (blanks ++ '(' :: inner ++ rest) = some (.opened path, rest) := by
  have noOpening : '(' ∉ blanks := not_mem_of_isBlank blank (by decide)
  have noClose : leadingClose? (blanks ++ '(' :: inner ++ rest) = none := by
    have solid : Text.Stops Text.isBlank ('(' :: (inner ++ rest)) :=
      Text.Stops.cons (by decide) _
    simpa [List.append_assoc] using leadingClose?_eq_none blank (by simp) solid
  have opening : firstOpening? absolutePath? (blanks ++ '(' :: inner ++ rest) =
      some (path, rest) := by
    rw [List.append_assoc, firstOpening?_append noOpening, List.cons_append,
      firstOpening?_opening, read, Option.some_or]
  rw [next?, leadingPair?_opening blank chars delimits, noClose, opening]
  rfl

theorem next?_opening (blank : ∀ c ∈ blanks, Text.isBlank c) (path : AbsolutePath) (gap : Gap)
    (delimits : Delimits rest) :
    next? (blanks ++ '(' :: path.text ++ gap.text ++ rest) =
      some (.opened (path.text ++ gap.taken), rest) := by
  have found := next?_of_absolutePath? blank (path.isPathChar_gap gap) delimits
    (absolutePath?_gap path gap delimits)
  simpa [List.append_assoc] using found

end Pieces

theorem delimits_pieces {pieces : List StrictPiece}
    (opens : ∀ piece ∈ pieces.head?, ∀ blanks, piece ≠ .closing blanks) :
    Delimits (pieces.flatMap StrictPiece.text) := by
  cases pieces with
  | nil => exact delimits_nil
  | cons piece pieces =>
      cases piece with
      | opening path gap => exact delimits_opening _
      | closing blanks => exact absurd rfl (opens _ rfl blanks)

theorem tokens_pieces {blanks : Text} (blank : ∀ c ∈ blanks, Text.isBlank c)
    (pieces : List StrictPiece) :
    tokens (blanks ++ pieces.flatMap StrictPiece.text) = StrictPiece.tokens pieces := by
  induction pieces using StrictPiece.tokens.induct generalizing blanks with
  | case1 =>
      rw [List.flatMap_nil, List.append_nil, StrictPiece.tokens]
      apply tokens_of_next?_none
      apply next?_plain
      · exact not_mem_of_isBlank blank (by decide)
      · exact not_mem_of_isBlank blank (by decide)
  | case2 path gap after pieces ih =>
      have found := next?_pair blank (path.isPathChar_gap gap)
        (after.text ++ pieces.flatMap StrictPiece.text)
      rw [StrictPiece.tokens, ← ih after.blank, ← tokens_of_next? found]
      simp [StrictPiece.text]
  | case3 path gap pieces opens ih =>
      have delimits : Delimits (pieces.flatMap StrictPiece.text) := by
        apply delimits_pieces
        rintro piece isFirst blanks rfl
        obtain ⟨others, rfl⟩ := List.head?_eq_some_iff.mp isFirst
        exact opens blanks others rfl
      have found := next?_opening blank path gap delimits
      have others : tokens ([] ++ pieces.flatMap StrictPiece.text) = StrictPiece.tokens pieces :=
        ih (by simp)
      rw [StrictPiece.tokens, ← others, List.nil_append, ← tokens_of_next? found]
      · simp [StrictPiece.text]
      · exact opens
  | case4 after pieces ih =>
      have found := next?_closing blank (after.text ++ pieces.flatMap StrictPiece.text)
      rw [StrictPiece.tokens, ← ih after.blank, ← tokens_of_next? found]
      simp [StrictPiece.text]

end FileToken.Strict

namespace StrictPiece

/-- A pair that the reader discards would enter a file and leave it at once. -/
theorem run?_tokens (pieces : List StrictPiece) (stack : List Path) :
    FileMark.run? stack ((tokens pieces).flatMap FileToken.marks) =
      FileMark.run? stack (pieces.map mark) := by
  induction pieces using tokens.induct generalizing stack with
  | case1 => rfl
  | case2 path gap after pieces ih => simpa [tokens, FileToken.marks, mark] using ih stack
  | case3 path gap pieces opens ih =>
      have entered : Text.trimEnd (path.text ++ gap.taken) = path.text := by
        rw [Text.trimEnd_append_blanks path.text gap.taken_blank, path.trimmed]
      rw [tokens]
      · simpa [FileToken.marks, mark, entered] using ih (path.text :: stack)
      · exact opens
  | case4 after pieces ih =>
      cases stack with
      | nil => simp [tokens, FileToken.marks, mark]
      | cons path outer => simpa [tokens, FileToken.marks, mark] using ih outer

theorem exists_dropLineEnds (blanks : Blanks) (pieces : List StrictPiece) :
    ∃ (shorter : Blanks) (others : List StrictPiece),
      Text.dropLineEnds (blanks.text ++ pieces.flatMap text) =
          shorter.text ++ others.flatMap text ∧
        others.map mark = pieces.map mark := by
  rcases List.eq_nil_or_concat pieces with rfl | ⟨front, last, rfl⟩
  · exact ⟨blanks.dropLineEnds, [], by simp [Blanks.dropLineEnds], rfl⟩
  · refine ⟨blanks, ?_⟩
    cases last with
    | closing after =>
        refine ⟨front ++ [closing after.dropLineEnds], ?_, by simp [mark]⟩
        have kept : Text.dropLineEnds (blanks.text ++ front.flatMap text ++ [')'] ++ after.text) =
            blanks.text ++ front.flatMap text ++ [')'] ++ Text.dropLineEnds after.text :=
          Text.dropEndWhile_append _ after.text (by simp; decide)
        simpa [text, Blanks.dropLineEnds] using kept
    | opening path gap =>
        refine ⟨front ++ [opening path gap.dropLineEnds], ?_, by simp [mark]⟩
        have kept := Text.dropEndWhile_append _ gap.text
          (path.toPrintedPath.not_isLineEnd_getLast? (blanks.text ++ front.flatMap text))
        simpa [text, ← gap.text_dropLineEnds, Text.dropLineEnds] using kept

end StrictPiece

namespace StrictLine

open FileToken.Strict

theorem consume_text (line : StrictLine) (stack : List Path) :
    (Nesting.within .strict stack).consume line.text =
      Nesting.outcome .strict (FileMark.run? stack line.marks) := by
  have run (text : Text) := Nesting.run_within .strict stack fun head =>
    wrapped_not_mem_tokens head text
  cases line with
  | printed blanks pieces =>
      obtain ⟨shorter, others, same, marks⟩ := StrictPiece.exists_dropLineEnds blanks pieces
      calc
        (Nesting.within .strict stack).consume (blanks.text ++ pieces.flatMap StrictPiece.text) =
            (Nesting.within .strict stack).run
              (tokens (Text.dropLineEnds (blanks.text ++ pieces.flatMap StrictPiece.text))) := rfl
        _ = Nesting.outcome .strict
              (FileMark.run? stack ((StrictPiece.tokens others).flatMap FileToken.marks)) := by
          rw [run, same, tokens_pieces shorter.blank]
        _ = Nesting.outcome .strict (FileMark.run? stack (pieces.map StrictPiece.mark)) := by
          rw [StrictPiece.run?_tokens, marks]
  | plain text noOpening noClosing =>
      have silent : tokens (Text.dropLineEnds text) = [] :=
        tokens_of_next?_none (next?_plain
          (fun member => noOpening (Text.mem_of_mem_dropEndWhile member))
          (fun member => noClosing (Text.mem_of_mem_dropEndWhile member)))
      calc
        (Nesting.within .strict stack).consume text =
            (Nesting.within .strict stack).run (tokens (Text.dropLineEnds text)) := rfl
        _ = Nesting.outcome .strict (FileMark.run? stack []) := by
          rw [silent]
          rfl

end StrictLine

/-- Whatever the layout, the strict reader follows the plain machine: line by line, and over the log
as a whole up to the first line in which an empty stack is left. -/
theorem strict_follows_machine (log : List StrictLine) (stack : List Path) :
    (Nesting.within .strict stack).consumeEach (log.map StrictLine.text) =
        (FileMark.runEach? stack (log.map StrictLine.marks)).map (Nesting.outcome .strict) ∧
      (Nesting.within .strict stack).consumeAll (log.map StrictLine.text) =
        Nesting.outcome .strict (FileMark.run? stack (log.flatMap StrictLine.marks)) :=
  ⟨Nesting.consumeEach_within StrictLine.consume_text log stack,
    Nesting.consumeAll_within StrictLine.consume_text log stack⟩

example :
    (Nesting.within .strict []).consumeEach ["(/a.tex [1](/b.sty) (/c.tex", ") ))"] =
      [(Nesting.within .strict ["/c.tex", "/a.tex"], none),
        (Nesting.within .strict [], some .underflow)] := by
  cbv

end Typeset
