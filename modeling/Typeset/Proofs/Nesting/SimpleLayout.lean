import Mathlib.Data.List.Induction
import Typeset.Proofs.Nesting.JoinedReading
import Typeset.Proofs.Nesting.Mark

/-!
The joining reading of simple lines: closing parentheses, then text with closed pairs, at most one
file that stays open, and further closing parentheses behind a last pair.  The reader looks for one
path only and counts the parentheses at both ends, and still does what the plain machine does.
-/

namespace Typeset

/-- Text, or a pair of parentheses with no other one between them. -/
inductive SimplePiece where
  | plain (text : PlainText)
  | pair (name : PlainText)

namespace SimplePiece

def text : SimplePiece → Text
  | plain text => text.text
  | pair name => '(' :: name.text ++ [')']

def marks : SimplePiece → List FileMark
  | plain _ => []
  | pair name => [.enter name.text, .leave]

end SimplePiece

/-- How a line ends in which no file stays open any more. -/
inductive SimpleEnding where
  | settled (pieces : List SimplePiece)
  /-- A pair, and closing parentheses of files that were opened before it. -/
  | closes (pieces : List SimplePiece) (name : PlainText) (count : Nat)

namespace SimpleEnding

def text : SimpleEnding → Text
  | settled pieces => pieces.flatMap SimplePiece.text
  | closes pieces name count =>
      pieces.flatMap SimplePiece.text ++ '(' :: name.text ++ List.replicate (count + 1) ')'

def marks : SimpleEnding → List FileMark
  | settled pieces => pieces.flatMap SimplePiece.marks
  | closes pieces name count =>
      pieces.flatMap SimplePiece.marks ++ .enter name.text :: List.replicate (count + 1) .leave

end SimpleEnding

inductive SimpleBody where
  | complete (ending : SimpleEnding)
  | opens (pieces : List SimplePiece) (path : UnmarkedPath) (gap : Gap)
  | nests (pieces : List SimplePiece) (path : PrintedPath) (blanks : Blanks)
      (ending : SimpleEnding) (startsWithPair : ending.text.head? = some '(')

namespace SimpleBody

def text : SimpleBody → Text
  | complete ending => ending.text
  | opens pieces path gap => pieces.flatMap SimplePiece.text ++ '(' :: path.text ++ gap.text
  | nests pieces path blanks ending _ =>
      pieces.flatMap SimplePiece.text ++ '(' :: path.text ++ blanks.text ++ ending.text

def marks : SimpleBody → List FileMark
  | complete ending => ending.marks
  | opens pieces path _ => pieces.flatMap SimplePiece.marks ++ [.enter path.text]
  | nests pieces path _ ending _ =>
      pieces.flatMap SimplePiece.marks ++ .enter path.text :: ending.marks

end SimpleBody

def spacedCloses (spaces : List Nat) : Text :=
  spaces.flatMap fun count => List.replicate count ' ' ++ [')']

structure SimpleLine where
  spaces : List Nat
  body : SimpleBody
  narrow : Text.byteLength (spacedCloses spaces ++ body.text) < FileToken.Joined.wrapWidth

namespace SimpleLine

def text (line : SimpleLine) : Text :=
  spacedCloses line.spaces ++ line.body.text

def marks (line : SimpleLine) : List FileMark :=
  List.replicate line.spaces.length .leave ++ line.body.marks

end SimpleLine

namespace SimplePiece

open FileToken FileToken.Joined

variable {pieces : List SimplePiece} {items rest : Text}

theorem openAtEnd?_pieces (pieces : List SimplePiece) (rest : Text) :
    openAtEnd? (pieces.flatMap text ++ rest) = openAtEnd? rest := by
  induction pieces with
  | nil => rfl
  | cons piece pieces ih =>
      rw [List.flatMap_cons, List.append_assoc]
      cases piece with
      | plain plain =>
          rw [text, openAtEnd?_append (not_mem_of_isPathChar plain.plain (by decide)), ih]
      | pair name =>
          rw [text, List.append_assoc, List.singleton_append,
            openAtEnd?_paren name.plain (by decide), ← List.singleton_append,
            openAtEnd?_append (by decide), ih]

theorem openBefore?_pieces (pieces : List SimplePiece) (rest : Text) :
    openBefore? (pieces.flatMap text ++ rest) = openBefore? rest := by
  induction pieces with
  | nil => rfl
  | cons piece pieces ih =>
      rw [List.flatMap_cons, List.append_assoc]
      cases piece with
      | plain plain =>
          rw [text, openBefore?_append (not_mem_of_isPathChar plain.plain (by decide)), ih]
      | pair name =>
          rw [text, List.append_assoc, List.singleton_append, openBefore?_closing name.plain, ih]

theorem opensFirst_pieces (opensFirst : OpensFirst rest) (pieces : List SimplePiece) :
    OpensFirst (pieces.flatMap text ++ rest) := by
  induction pieces with
  | nil => exact opensFirst
  | cons piece pieces ih =>
      rw [List.flatMap_cons, List.append_assoc]
      cases piece with
      | plain plain =>
          exact (opensFirst_append (forall_isPlain plain.plain)).mpr ih
      | pair name => exact opensFirst_of_delimits (delimits_opening _)

theorem trailingCloses_pieces (items : Text) (fails : ∀ last ∈ items.getLast?, last ≠ ')')
    (pieces : List SimplePiece) : trailingCloses (items ++ pieces.flatMap text) = 0 := by
  induction pieces using List.reverseRecOn with
  | nil => simpa using trailingCloses_eq_zero fails
  | append_singleton pieces piece ih =>
      cases piece with
      | plain plain =>
          rcases List.eq_nil_or_concat plain.text with empty | ⟨front, last, split⟩
          · simpa [text, empty] using ih
          · apply trailingCloses_eq_zero
            intro other isLast
            rw [List.flatMap_append, List.flatMap_singleton, text, split, List.concat_eq_append,
              ← List.append_assoc, ← List.append_assoc, List.getLast?_concat,
              Option.mem_some_iff] at isLast
            subst other
            exact ((isPathChar_iff last).mp (plain.plain last (by simp [split]))).2.1
      | pair name =>
          have counted := trailingCloses_replicate 1
            (getLast?_ne_closing (items ++ pieces.flatMap text) name.plain)
          simpa [text] using counted

theorem run?_pieces (pieces : List SimplePiece) (stack : List Path) :
    FileMark.run? stack (pieces.flatMap marks) = some stack := by
  induction pieces with
  | nil => rfl
  | cons piece pieces ih =>
      cases piece with
      | plain plain => exact ih
      | pair name => exact ih

theorem exists_dropLineEnds (pieces : List SimplePiece) :
    ∃ others : List SimplePiece,
      Text.dropLineEnds (pieces.flatMap text) = others.flatMap text := by
  induction pieces using List.reverseRecOn with
  | nil => exact ⟨[], rfl⟩
  | append_singleton pieces piece ih =>
      cases piece with
      | pair name =>
          refine ⟨pieces ++ [pair name], Text.dropEndWhile_eq_self ?_⟩
          rw [List.flatMap_append, List.flatMap_singleton, text, ← List.append_assoc,
            List.getLast?_concat]
          simp [Text.isLineEnd]
      | plain plain =>
          rw [List.flatMap_append, List.flatMap_singleton, text]
          by_cases ended : ∀ c ∈ plain.text, Text.isLineEnd c
          · obtain ⟨others, shorter⟩ := ih
            exact ⟨others, (Text.dropEndWhile_append_of_all _ ended).trans shorter⟩
          · obtain ⟨last, member, fails⟩ : ∃ c ∈ plain.text, ¬ Text.isLineEnd c := by
              simpa only [not_forall, exists_prop] using ended
            refine ⟨pieces ++ [SimplePiece.plain plain.dropLineEnds], ?_⟩
            rw [List.flatMap_append, List.flatMap_singleton, text]
            exact Text.dropEndWhile_append_of_mem _ member (Bool.eq_false_iff.mpr fails)

end SimplePiece

namespace SimpleEnding

open FileToken FileToken.Joined

theorem openAtEnd?_text (ending : SimpleEnding) : openAtEnd? ending.text = none := by
  cases ending with
  | settled pieces =>
      rw [text, ← List.append_nil (pieces.flatMap _), SimplePiece.openAtEnd?_pieces,
        openAtEnd?_eq_none (by simp)]
  | closes pieces name count =>
      rw [text, List.append_assoc, SimplePiece.openAtEnd?_pieces, List.replicate_succ,
        openAtEnd?_paren name.plain (by decide), openAtEnd?_eq_none (by simp)]

theorem openBefore?_text (ending : SimpleEnding) : openBefore? ending.text = none := by
  cases ending with
  | settled pieces =>
      rw [text, ← List.append_nil (pieces.flatMap _), SimplePiece.openBefore?_pieces,
        openBefore?_eq_none (by simp)]
  | closes pieces name count =>
      rw [text, List.append_assoc, SimplePiece.openBefore?_pieces, List.replicate_succ,
        openBefore?_closing name.plain, openBefore?_eq_none (by simp)]

def surplus : SimpleEnding → Nat
  | settled _ => 0
  | closes _ _ count => count

theorem trailingCloses_text (ending : SimpleEnding) (items : Text)
    (fails : ∀ last ∈ items.getLast?, last ≠ ')') :
    trailingCloses (items ++ ending.text) = ending.surplus := by
  cases ending with
  | settled pieces => exact SimplePiece.trailingCloses_pieces items fails pieces
  | closes pieces name count =>
      rw [text, ← List.append_assoc, ← List.append_assoc,
        trailingCloses_replicate _ (getLast?_ne_closing _ name.plain)]
      rfl

theorem run?_marks (ending : SimpleEnding) (stack : List Path) :
    FileMark.run? stack ending.marks =
      FileMark.run? stack (List.replicate ending.surplus .leave) := by
  cases ending with
  | settled pieces => exact SimplePiece.run?_pieces pieces stack
  | closes pieces name count =>
      rw [marks, FileMark.run?_append, SimplePiece.run?_pieces]
      rfl

theorem exists_dropLineEnds (ending : SimpleEnding) :
    ∃ other : SimpleEnding,
      Text.dropLineEnds ending.text = other.text ∧ other.surplus = ending.surplus := by
  cases ending with
  | settled pieces =>
      obtain ⟨others, same⟩ := SimplePiece.exists_dropLineEnds pieces
      exact ⟨settled others, same, rfl⟩
  | closes pieces name count =>
      refine ⟨closes pieces name count, Text.dropEndWhile_eq_self ?_, rfl⟩
      rw [text, List.replicate_succ', ← List.append_assoc, List.getLast?_concat]
      simp [Text.isLineEnd]

end SimpleEnding

namespace SimpleBody

open FileToken FileToken.Joined

theorem opensFirst (body : SimpleBody) : OpensFirst body.text := by
  cases body with
  | complete ending =>
      cases ending with
      | settled pieces =>
          simpa [text, SimpleEnding.text] using
            SimplePiece.opensFirst_pieces (opensFirst_of_delimits delimits_nil) pieces
      | closes pieces name count =>
          rw [text, SimpleEnding.text, List.append_assoc]
          exact SimplePiece.opensFirst_pieces (opensFirst_of_delimits (delimits_opening _)) pieces
  | opens pieces path gap =>
      rw [text, List.append_assoc]
      exact SimplePiece.opensFirst_pieces (opensFirst_of_delimits (delimits_opening _)) pieces
  | nests pieces path blanks ending startsWithPair =>
      rw [text, List.append_assoc, List.append_assoc]
      exact SimplePiece.opensFirst_pieces (opensFirst_of_delimits (delimits_opening _)) pieces

theorem run?_tokens (body : SimpleBody) (stack : List Path) :
    FileMark.run? stack ((opening false body.text ++
        List.replicate (trailingCloses body.text) FileToken.closed).flatMap FileToken.marks) =
      FileMark.run? stack body.marks := by
  cases body with
  | complete ending =>
      have counted := ending.trailingCloses_text [] (by simp)
      rw [List.nil_append] at counted
      rw [text, marks, ending.run?_marks, opening, ending.openAtEnd?_text,
        ending.openBefore?_text, counted]
      exact congrArg (FileMark.run? stack) (FileToken.flatMap_marks_closed ending.surplus)
  | opens pieces path gap =>
      have read : openAtEnd? (text (opens pieces path gap)) = some (path.text ++ gap.taken) := by
        rw [text, List.append_assoc, SimplePiece.openAtEnd?_pieces, openAtEnd?_gap]
      have counted : trailingCloses (text (opens pieces path gap)) = 0 := by
        rw [text, List.append_assoc]
        exact trailingCloses_eq_zero (getLast?_ne_closing _ (path.isPathChar_gap gap))
      have entered : Text.trimEnd (path.text ++ gap.taken) = path.text := by
        rw [Text.trimEnd_append_blanks path.text gap.taken_blank, path.trimmed]
      rw [opening, read, counted, marks, FileMark.run?_append, SimplePiece.run?_pieces]
      simp [FileToken.marks, entered]
  | nests pieces path blanks ending startsWithPair =>
      obtain ⟨rest, split⟩ := List.head?_eq_some_iff.mp startsWithPair
      have chars := path.isPathChar_gap (.spaced blanks)
      have noEnd : openAtEnd? (text (nests pieces path blanks ending startsWithPair)) = none := by
        have skipped : openAtEnd? ('(' :: (path.text ++ blanks.text) ++ '(' :: rest) =
            openAtEnd? ('(' :: rest) := openAtEnd?_paren chars (by decide)
        rw [← split, ending.openAtEnd?_text] at skipped
        rw [text, List.append_assoc, List.append_assoc, SimplePiece.openAtEnd?_pieces,
          ← List.append_assoc]
        exact skipped
      have read : openBefore? (text (nests pieces path blanks ending startsWithPair)) =
          some path.text := by
        rw [text, List.append_assoc, List.append_assoc, SimplePiece.openBefore?_pieces,
          ← List.append_assoc, split, openBefore?_opening]
      have counted : trailingCloses (text (nests pieces path blanks ending startsWithPair)) =
          ending.surplus := by
        rw [text, List.append_assoc _ _ blanks.text]
        exact ending.trailingCloses_text _ (getLast?_ne_closing _ chars)
      rw [opening, noEnd, read, counted, marks, FileMark.run?_append, SimplePiece.run?_pieces,
        Option.bind_some, FileMark.run?_enter, ending.run?_marks]
      simp only [List.singleton_append, List.flatMap_cons, FileToken.flatMap_marks_closed,
        FileToken.marks, path.trimmed, FileMark.run?_enter]

theorem exists_dropLineEnds (body : SimpleBody) :
    ∃ other : SimpleBody, Text.dropLineEnds body.text = other.text ∧
      ∀ stack, FileMark.run? stack other.marks = FileMark.run? stack body.marks := by
  cases body with
  | complete ending =>
      obtain ⟨other, same, surplus⟩ := ending.exists_dropLineEnds
      refine ⟨complete other, same, fun stack => ?_⟩
      rw [marks, marks, other.run?_marks, ending.run?_marks, surplus]
  | opens pieces path gap =>
      refine ⟨opens pieces path gap.dropLineEnds, ?_, fun stack => rfl⟩
      rw [text, text, ← gap.text_dropLineEnds]
      exact Text.dropEndWhile_append _ gap.text (path.not_isLineEnd_getLast? _)
  | nests pieces path blanks ending startsWithPair =>
      obtain ⟨other, same, surplus⟩ := ending.exists_dropLineEnds
      obtain ⟨rest, split⟩ := List.head?_eq_some_iff.mp startsWithPair
      have kept : Text.dropLineEnds ending.text = '(' :: Text.dropLineEnds rest := by
        rw [split]
        exact Text.dropEndWhile_append ['('] rest (by simp [Text.isLineEnd])
      have starts : other.text.head? = some '(' := by
        rw [← same, kept]
        rfl
      refine ⟨nests pieces path blanks other starts, ?_, fun stack => ?_⟩
      · have member : '(' ∈ ending.text := by simp [split]
        rw [text, text, ← same]
        exact Text.dropEndWhile_append_of_mem _ member (by decide)
      · simp only [marks, FileMark.run?_append, SimplePiece.run?_pieces, Option.bind_some,
          FileMark.run?_enter, other.run?_marks, ending.run?_marks, surplus]

end SimpleBody

namespace SimpleLine

open FileToken FileToken.Joined

theorem leadingCloses_spacedCloses (spaces : List Nat) {body : Text}
    (opensFirst : OpensFirst body) :
    leadingCloses [] (spacedCloses spaces ++ body) = (spaces.length, body) := by
  induction spaces with
  | nil => exact leadingCloses_of_opensFirst [] (by simp) opensFirst
  | cons count spaces ih =>
      rw [spacedCloses, List.flatMap_cons, List.append_assoc, List.append_assoc,
        List.singleton_append, leadingCloses_spaces]
      exact congrArg (fun read : Nat × Text => (read.1 + 1, read.2)) ih

theorem dropLineEnds_spacedCloses (spaces : List Nat) (body : Text) :
    Text.dropLineEnds (spacedCloses spaces ++ body) =
      spacedCloses spaces ++ Text.dropLineEnds body := by
  apply Text.dropEndWhile_append
  intro last isLast
  rcases List.eq_nil_or_concat spaces with rfl | ⟨front, count, rfl⟩
  · simp [spacedCloses] at isLast
  · rw [spacedCloses, List.concat_eq_append, List.flatMap_append, List.flatMap_singleton,
      ← List.append_assoc, List.getLast?_concat, Option.mem_some_iff] at isLast
    subst last
    decide

theorem consume_text (line : SimpleLine) (stack : List Path) :
    (Nesting.within .fragment stack).consume line.text =
      Nesting.outcome .fragment (FileMark.run? stack line.marks) := by
  obtain ⟨other, same, marks⟩ := line.body.exists_dropLineEnds
  have shown : Text.dropLineEnds line.text = spacedCloses line.spaces ++ other.text := by
    rw [text, dropLineEnds_spacedCloses, same]
  have narrow : isFullWidth (Text.dropLineEnds line.text) = false :=
    isFullWidth_dropLineEnds line.narrow
  have tokens : lineTokens false (spacedCloses line.spaces ++ other.text) =
      List.replicate line.spaces.length .closed ++ (opening false other.text ++
        List.replicate (trailingCloses other.text) .closed) := by
    simp only [lineTokens, leadingCloses_spacedCloses line.spaces other.opensFirst,
      List.append_assoc]
  have whole (head : Text) : .wrapped head ∉ lineTokens false
      (spacedCloses line.spaces ++ other.text) := wrapped_not_mem_lineTokens head _
  calc
    (Nesting.within .fragment stack).consume line.text =
        (Nesting.within .fragment stack).run
          (lineTokens (isFullWidth (Text.dropLineEnds line.text))
            (Text.dropLineEnds line.text)) := rfl
    _ = (Nesting.within .fragment stack).run
          (lineTokens false (spacedCloses line.spaces ++ other.text)) := by rw [narrow, shown]
    _ = Nesting.outcome .fragment (FileMark.run? stack
          ((lineTokens false (spacedCloses line.spaces ++ other.text)).flatMap
            FileToken.marks)) := Nesting.run_within .fragment stack whole
    _ = Nesting.outcome .fragment (FileMark.run? stack line.marks) := by
      rw [tokens, List.flatMap_append, FileToken.flatMap_marks_closed, FileMark.run?_append,
        SimpleLine.marks, FileMark.run?_append]
      simp only [other.run?_tokens, marks]

end SimpleLine

/-- On simple lines the joining reader follows the plain machine: line by line, and over the log as
a whole up to the first line in which an empty stack is left. -/
theorem fragment_follows_machine (log : List SimpleLine) (stack : List Path) :
    (Nesting.within .fragment stack).consumeEach (log.map SimpleLine.text) =
        (FileMark.runEach? stack (log.map SimpleLine.marks)).map (Nesting.outcome .fragment) ∧
      (Nesting.within .fragment stack).consumeAll (log.map SimpleLine.text) =
        Nesting.outcome .fragment (FileMark.run? stack (log.flatMap SimpleLine.marks)) :=
  ⟨Nesting.consumeEach_within SimpleLine.consume_text log stack,
    Nesting.consumeAll_within SimpleLine.consume_text log stack⟩

example :
    (Nesting.within .fragment ["a.tex"]).consumeEach [" )(x) (b.tex [1]", "(c.tex (d.sty)))", ")"] =
      [(Nesting.within .fragment ["b.tex"], none), (Nesting.within .fragment [], none),
        (Nesting.within .fragment [], some .underflow)] := by
  decide

end Typeset
