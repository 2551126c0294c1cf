import Typeset.Proofs.Nesting.Calls
import Typeset.Proofs.Nesting.SimpleLayout
import Typeset.Proofs.Nesting.StrictLayout

/-!
Page numbers behind an opened path.  One of them is told from the path, the last at the end of the
line; the readers take those before it for a part of the path.
-/

namespace Typeset

def PageNumber.spaced (numbers : List PageNumber) : Text :=
  numbers.flatMap fun number => ' ' :: number.text

def Blanks.space : Blanks where
  text := [' ']
  blank := by simp [Text.isBlank]
  unbroken := by simp

theorem PageNumber.spaced_concat (numbers : List PageNumber) (last : PageNumber) :
    spaced (numbers ++ [last]) = spaced numbers ++ (Blanks.space.text ++ last.text) := by
  simp [spaced, Blanks.space]

theorem PageNumber.isPathChar_spaced (numbers : List PageNumber) :
    ∀ c ∈ spaced numbers, FileToken.isPathChar c := by
  intro c member
  obtain ⟨number, -, inNumber⟩ := List.mem_flatMap.mp member
  rcases List.mem_cons.mp inNumber with rfl | inText
  · decide
  · exact number.isPathChar c inText

def PrintedPath.numbered (path : PrintedPath) (numbers : List PageNumber) : PrintedPath where
  text := path.text ++ PageNumber.spaced numbers
  chars := List.forall_mem_append.mpr ⟨path.chars, PageNumber.isPathChar_spaced numbers⟩
  trimmed := by
    rcases List.eq_nil_or_concat numbers with rfl | ⟨front, last, rfl⟩
    · simpa [PageNumber.spaced] using path.trimmed
    · apply Text.dropEndWhile_eq_self
      rw [List.concat_eq_append, PageNumber.spaced_concat, ← List.append_assoc, ← List.append_assoc,
        PageNumber.getLast?_append_text]
      simp [Text.isBlank]

theorem PrintedPath.text_numbered (path : PrintedPath) (numbers : List PageNumber) :
    (path.numbered numbers).text = path.text ++ PageNumber.spaced numbers := rfl

def UnmarkedPath.ofText (text : Text) (chars : text.all FileToken.isPathChar = true)
    (ends : (text.getLast?.all fun last => !Text.isBlank last && last ≠ ']') = true) :
    UnmarkedPath where
  text := text
  chars := List.all_eq_true.mp chars
  trimmed := Text.dropEndWhile_eq_self fun last isLast => by
    rw [isLast] at ends
    simp_all
  unmarked := fun marked => by
    rw [marked.getLast?] at ends
    simp at ends

namespace FileToken

section Stop

variable {α : Type} {place : Text → Prop} {stop? : Text → Option α} {rest : Text} {found : α}

theorem shortestPath?_spaced (stops : StopsAt place stop?)
    (places : ∀ text, place text → Delimits text) (path : UnmarkedPath) {tail : Text}
    (suffix : tail <:+ path.text) (numbers : List PageNumber) (delimits : Delimits rest)
    (stopped : stop? rest = some found) :
    shortestPath? (afterMarker? stop?) (tail ++ PageNumber.spaced numbers ++ rest) =
      some (tail ++ PageNumber.spaced numbers.dropLast, found) := by
  rcases List.eq_nil_or_concat numbers with rfl | ⟨front, last, rfl⟩
  · have chars : ∀ c ∈ tail, isPathChar c := fun c member => path.chars c (suffix.subset member)
    have unmarked : ¬ EndsInNumber tail := fun ends => path.unmarked (ends.of_suffix suffix)
    simpa [PageNumber.spaced] using
      shortestPath?_unmarked stops places chars unmarked delimits stopped
  · have behind : tail ++ PageNumber.spaced front <:+ (path.numbered front).text := by
      obtain ⟨start, same⟩ := suffix
      exact ⟨start, by rw [PrintedPath.text_numbered, ← same, List.append_assoc]⟩
    have read := shortestPath?_marked stops places (path.numbered front) behind .space last delimits
      stopped
    rw [List.concat_eq_append, PageNumber.spaced_concat, List.dropLast_concat, ← List.append_assoc]
    exact read

end Stop

variable (path : UnmarkedPath) (numbers : List PageNumber)

theorem Joined.openAtEnd?_numbered :
    openAtEnd? ('(' :: (path.numbered numbers).text) =
      some (path.numbered numbers.dropLast).text := by
  have read := shortestPath?_spaced stopsAt_atEnd? (fun _ => delimits_of_eq_nil) path
    List.suffix_rfl numbers delimits_nil rfl
  rw [List.append_nil] at read
  rw [openAtEnd?, firstOpening?_opening, PrintedPath.text_numbered, read]
  rfl

theorem Strict.absolutePath?_numbered (rooted : path.text.head? = some '/') :
    absolutePath? ((path.numbered numbers).text ++ []) =
      some ((path.numbered numbers.dropLast).text, []) := by
  obtain ⟨tail, split⟩ := List.head?_eq_some_iff.mp rooted
  have suffix : tail <:+ path.text := split ▸ List.suffix_cons '/' tail
  have read := shortestPath?_spaced stopsAt_atOpening? (fun _ => id) path suffix numbers
    delimits_nil rfl
  rw [PrintedPath.text_numbered, PrintedPath.text_numbered, split, List.cons_append,
    List.cons_append, absolutePath?, read]
  rfl

theorem Strict.tokens_numbered (rooted : path.text.head? = some '/') :
    tokens ('(' :: (path.numbered numbers).text) =
      [.opened (path.numbered numbers.dropLast).text] := by
  have found := @next?_of_absolutePath? [] _ _ _ (by simp) (path.numbered numbers).chars
    delimits_nil (absolutePath?_numbered path numbers rooted)
  rw [List.nil_append, List.append_nil] at found
  rw [tokens_of_next? found, tokens_of_next?_none (next?_plain (by simp) (by simp))]

theorem Joined.lineTokens_numbered :
    lineTokens false ('(' :: (path.numbered numbers).text) =
      [.opened (path.numbered numbers.dropLast).text] := by
  have shut : trailingCloses ('(' :: (path.numbered numbers).text) = 0 :=
    trailingCloses_eq_zero (getLast?_ne_closing [] (path.numbered numbers).chars)
  rw [lineTokens_of_opensFirst false (opensFirst_of_delimits (delimits_opening _)), opening,
    openAtEnd?_numbered, shut]
  rfl

end FileToken

namespace Nesting

open FileToken FileToken.Joined

variable {rule : NestingRule} {stack : List Path} {line : Text}

theorem consume_of_read_opened (path : PrintedPath)
    (readable : (within rule stack).read line = .ok [.opened path.text]) :
    (within rule stack).consume line = (within rule (path.text :: stack), none) := by
  rw [consume_of_read readable, within, run_cons_ok rfl, OpenFiles.push, path.trimmed]
  rfl

theorem read_numbered (stack : List Path) (path : UnmarkedPath) (numbers : List PageNumber)
    (rooted : rule = .strict → path.text.head? = some '/')
    (narrow : Text.byteLength ('(' :: (path.numbered numbers).text) < wrapWidth) :
    (within rule stack).read ('(' :: (path.numbered numbers).text) =
      .ok [.opened (path.numbered numbers.dropLast).text] := by
  have shown : Text.dropLineEnds ('(' :: (path.numbered numbers).text) =
      '(' :: (path.numbered numbers).text :=
    Text.dropEndWhile_eq_self ((path.numbered numbers).not_isLineEnd_getLast? [])
  cases rule with
  | strict =>
      rw [← Strict.tokens_numbered path numbers (rooted rfl), read, shown]
      rfl
  | fragment =>
      have tokens : tokens? none ('(' :: (path.numbered numbers).text) =
          some [.opened (path.numbered numbers.dropLast).text] := by
        rw [tokens?, isFullWidth_of_suffix narrow List.suffix_rfl, lineTokens_numbered]
      simp only [read, within, shown, tokens]

theorem consume_opening_before_pair (stack : List Path) (path inner : UnmarkedPath)
    (rooted : rule = .strict → path.text.head? = some '/' ∧ inner.text.head? = some '/')
    (narrow : Text.byteLength ('(' :: path.text ++ " (" ++ inner.text ++ ")") < wrapWidth) :
    (within rule stack).consume ('(' :: path.text ++ " (" ++ inner.text ++ ")") =
      (within rule (path.text :: stack), none) := by
  let nothing : Blanks := ⟨[], by simp, by simp⟩
  cases rule with
  | strict =>
      obtain ⟨pathRooted, innerRooted⟩ := rooted rfl
      let printed : StrictLine := .printed nothing
        [.opening ⟨path, pathRooted⟩ (.spaced .space), .opening ⟨inner, innerRooted⟩ (.spaced nothing),
          .closing nothing]
      have text : printed.text = '(' :: path.text ++ " (" ++ inner.text ++ ")" := by
        simp [printed, nothing, StrictLine.text, StrictPiece.text, Gap.text, Blanks.space]
      rw [← text]
      exact printed.consume_text stack
  | fragment =>
      let body : SimpleBody := .nests [] path.toPrintedPath .space
        (.closes [] ⟨inner.text, inner.chars⟩ 0) rfl
      have text : spacedCloses [] ++ body.text = '(' :: path.text ++ " (" ++ inner.text ++ ")" := by
        simp [body, spacedCloses, SimpleBody.text, SimpleEnding.text, Blanks.space]
      let simple : SimpleLine := ⟨[], body, by rwa [text]⟩
      rw [← text]
      exact simple.consume_text stack

/-- Of the page numbers behind a path the last one is no part of it, but those before it are; a space
before the next opening parenthesis is none either. -/
theorem last_page_number_is_told_from_path (rule : NestingRule) (stack : List Path)
    (path : UnmarkedPath) (rooted : rule = .strict → path.text.head? = some '/') :
    (∀ numbers : List PageNumber,
        Text.byteLength ('(' :: path.text ++ PageNumber.spaced numbers) < wrapWidth →
        (within rule stack).consume ('(' :: path.text ++ PageNumber.spaced numbers) =
          (within rule ((path.text ++ PageNumber.spaced numbers.dropLast) :: stack), none)) ∧
      ∀ inner : UnmarkedPath, (rule = .strict → inner.text.head? = some '/') →
        Text.byteLength ('(' :: path.text ++ " (" ++ inner.text ++ ")") < wrapWidth →
        (within rule stack).consume ('(' :: path.text ++ " (" ++ inner.text ++ ")") =
          (within rule (path.text :: stack), none) := by
  constructor
  · intro numbers narrow
    exact consume_of_read_opened (path.numbered numbers.dropLast)
      (read_numbered stack path numbers rooted narrow)
  · intro inner innerRooted narrow
    exact consume_opening_before_pair stack path inner
      (fun strict => ⟨rooted strict, innerRooted strict⟩) narrow

theorem page_number_is_told_from_document :
    (within .strict []).consume "(/a.tex [1]" = (within .strict ["/a.tex"], none) ∧
      (within .strict []).consume "(/a.tex (/b.sty)" = (within .strict ["/a.tex"], none) := by
  obtain ⟨numbered, nested⟩ := last_page_number_is_told_from_path .strict []
    (.ofText "/a.tex" (by decide) (by decide)) (fun _ => by decide)
  exact ⟨numbered [⟨['1'], by decide, List.all_eq_true.mp (by decide)⟩] (by decide),
    nested (.ofText "/b.sty" (by decide) (by decide)) (fun _ => by decide) (by decide)⟩

/-- There is one page number that a reader looks for behind a path. -/
theorem first_of_two_page_numbers_stays :
    (within .fragment []).consume "(./a.tex [1] [2]" = (within .fragment ["./a.tex [1]"], none) ∧
      (within .strict []).consume "(/a.tex [1] [2]" = (within .strict ["/a.tex [1]"], none) := by
  let document : UnmarkedPath := .ofText "/a.tex" (by decide) (by decide)
  let one : PageNumber := ⟨['1'], by decide, List.all_eq_true.mp (by decide)⟩
  let two : PageNumber := ⟨['2'], by decide, List.all_eq_true.mp (by decide)⟩
  refine ⟨by decide, consume_of_read_opened (document.numbered [one]) ?_⟩
  exact read_numbered [] document [one, two] (fun _ => by decide) (by decide)

end Nesting

end Typeset
