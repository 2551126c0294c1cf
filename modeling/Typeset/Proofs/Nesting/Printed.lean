import Typeset.Nesting.Token
import Typeset.Proofs.Text.Ends

namespace Typeset

structure PageNumber where
  digits : Text
  nonempty : digits ≠ []
  decimal : ∀ c ∈ digits, Text.isDecimalDigit c

def PageNumber.text (number : PageNumber) : Text :=
  '[' :: number.digits ++ [']']

structure Blanks where
  text : Text
  blank : ∀ c ∈ text, Text.isBlank c
  unbroken : '\n' ∉ text

def Blanks.dropLineEnds (blanks : Blanks) : Blanks where
  text := Text.dropLineEnds blanks.text
  blank := fun c member => blanks.blank c (Text.mem_of_mem_dropEndWhile member)
  unbroken := fun member => blanks.unbroken (Text.mem_of_mem_dropEndWhile member)

structure PlainText where
  text : Text
  plain : ∀ c ∈ text, FileToken.isPathChar c

def PlainText.dropLineEnds (plain : PlainText) : PlainText where
  text := Text.dropLineEnds plain.text
  plain := fun c member => plain.plain c (Text.mem_of_mem_dropEndWhile member)

/-- What stands between an opened path and the next parenthesis. -/
inductive Gap where
  | spaced (blanks : Blanks)
  | marked (blanks : Blanks) (number : PageNumber)

namespace Gap

def text : Gap → Text
  | spaced blanks => blanks.text
  | marked blanks number => blanks.text ++ number.text

/-- The blanks that a reader takes for the end of the path.  A marker and the blanks before it are
told from the path. -/
def taken : Gap → Text
  | spaced blanks => blanks.text
  | marked _ _ => []

def dropLineEnds : Gap → Gap
  | spaced blanks => spaced blanks.dropLineEnds
  | marked blanks number => marked blanks number

end Gap

def IsMarker (text : Text) : Prop :=
  ∃ (blanks : Text) (number : PageNumber),
    (∀ c ∈ blanks, Text.isBlank c) ∧ text = blanks ++ number.text

def EndsInNumber (text : Text) : Prop :=
  ∃ (before : Text) (number : PageNumber), text = before ++ number.text

structure PrintedPath where
  text : Text
  chars : ∀ c ∈ text, FileToken.isPathChar c
  trimmed : Text.trimEnd text = text

structure UnmarkedPath extends PrintedPath where
  unmarked : ¬ EndsInNumber text

theorem isBlank_ne {c other : Char} (blank : Text.isBlank c = true)
    (solid : Text.isBlank other = false) : c ≠ other := by
  rintro rfl
  simp [blank] at solid

theorem not_mem_of_isBlank {blanks : Text} {c : Char} (blank : ∀ c ∈ blanks, Text.isBlank c)
    (solid : Text.isBlank c = false) : c ∉ blanks := by
  intro member
  simp [blank c member] at solid

theorem isDecimalDigit_ne {c other : Char} (digit : Text.isDecimalDigit c = true)
    (noDigit : Text.isDecimalDigit other = false) : c ≠ other := by
  rintro rfl
  simp [digit] at noDigit

theorem isPathChar_iff (c : Char) :
    FileToken.isPathChar c = true ↔ c ≠ '(' ∧ c ≠ ')' ∧ c ≠ '\n' := by
  simp [FileToken.isPathChar, and_assoc]

theorem not_mem_of_isPathChar {text : Text} {c : Char}
    (chars : ∀ c ∈ text, FileToken.isPathChar c) (excluded : FileToken.isPathChar c = false) :
    c ∉ text := by
  intro member
  simp [chars c member] at excluded

theorem Blanks.isPathChar (blanks : Blanks) : ∀ c ∈ blanks.text, FileToken.isPathChar c := by
  intro c member
  have blank : Text.isBlank c = true := blanks.blank c member
  refine (isPathChar_iff c).mpr ⟨?_, ?_, ?_⟩
  · exact isBlank_ne blank (by decide)
  · exact isBlank_ne blank (by decide)
  · rintro rfl
    exact blanks.unbroken member

namespace PageNumber

theorem isPathChar (number : PageNumber) : ∀ c ∈ number.text, FileToken.isPathChar c := by
  intro c member
  rw [text, List.mem_append, List.mem_cons, List.mem_singleton] at member
  rcases member with (rfl | member) | rfl
  · decide
  · have digit : Text.isDecimalDigit c = true := number.decimal c member
    exact (isPathChar_iff c).mpr ⟨isDecimalDigit_ne digit (by decide),
      isDecimalDigit_ne digit (by decide), isDecimalDigit_ne digit (by decide)⟩
  · decide

theorem getLast?_append_text (before : Text) (number : PageNumber) :
    (before ++ number.text).getLast? = some ']' := by
  rw [text, ← List.append_assoc, List.getLast?_concat]

theorem append_text_inj {first second : Text} {firstNumber secondNumber : PageNumber}
    (same : first ++ firstNumber.text = second ++ secondNumber.text) :
    first = second ∧ firstNumber.digits = secondNumber.digits := by
  -- Read from the end, the digits are the run up to the opening bracket.
  have reversed := congrArg List.reverse same
  simp only [text, List.reverse_append, List.reverse_cons, List.reverse_nil, List.nil_append,
    List.append_assoc, List.cons_append, List.cons.injEq, true_and]
    at reversed
  have decimal (number : PageNumber) : ∀ c ∈ number.digits.reverse, Text.isDecimalDigit c :=
    fun c member => number.decimal c (List.mem_reverse.mp member)
  have bracket (rest : Text) : Text.Stops Text.isDecimalDigit ('[' :: rest) :=
    Text.Stops.cons (by decide) rest
  obtain ⟨digits, before⟩ := Text.run_unique reversed (decimal firstNumber) (decimal secondNumber)
    (bracket _) (bracket _)
  exact ⟨List.reverse_inj.mp (List.cons.inj before).2, List.reverse_inj.mp digits⟩

end PageNumber

namespace Gap

theorem isPathChar (gap : Gap) : ∀ c ∈ gap.text, FileToken.isPathChar c := by
  cases gap with
  | spaced blanks => exact blanks.isPathChar
  | marked blanks number =>
      exact List.forall_mem_append.mpr ⟨blanks.isPathChar, number.isPathChar⟩

theorem taken_blank (gap : Gap) : ∀ c ∈ gap.taken, Text.isBlank c := by
  cases gap with
  | spaced blanks => exact blanks.blank
  | marked blanks number => simp [taken]

theorem text_dropLineEnds (gap : Gap) : Text.dropLineEnds gap.text = gap.dropLineEnds.text := by
  cases gap with
  | spaced blanks => rfl
  | marked blanks number =>
      apply Text.dropEndWhile_eq_self
      rw [text, number.getLast?_append_text]
      simp [Text.isLineEnd]

end Gap

theorem PrintedPath.isPathChar_gap (path : PrintedPath) (gap : Gap) :
    ∀ c ∈ path.text ++ gap.text, FileToken.isPathChar c :=
  List.forall_mem_append.mpr ⟨path.chars, gap.isPathChar⟩

theorem PrintedPath.not_isLineEnd_getLast? (path : PrintedPath) (items : Text) :
    ∀ last ∈ (items ++ '(' :: path.text).getLast?, Text.isLineEnd last = false := by
  intro last isLast
  rw [List.getLast?_append, List.getLast?_cons, Option.some_or, Option.mem_some_iff] at isLast
  subst last
  cases pathLast : path.text.getLast? with
  | none => rfl
  | some last =>
      exact Text.isLineEnd_eq_false (Text.isBlank_getLast?_of_trimEnd path.trimmed pathLast)

theorem IsMarker.endsInNumber {text : Text} (marker : IsMarker text) : EndsInNumber text := by
  obtain ⟨blanks, number, -, same⟩ := marker
  exact ⟨blanks, number, same⟩

theorem EndsInNumber.getLast? {text : Text} (ends : EndsInNumber text) :
    text.getLast? = some ']' := by
  obtain ⟨before, number, rfl⟩ := ends
  exact number.getLast?_append_text before

theorem not_endsInNumber_append_blanks {text blanks : Text} (unmarked : ¬ EndsInNumber text)
    (blank : ∀ c ∈ blanks, Text.isBlank c) : ¬ EndsInNumber (text ++ blanks) := by
  intro ends
  cases lastBlank : blanks.getLast? with
  | none =>
      rw [List.getLast?_eq_none_iff] at lastBlank
      rw [lastBlank, List.append_nil] at ends
      exact unmarked ends
  | some last =>
      have isLast := ends.getLast?
      rw [List.getLast?_append, lastBlank, Option.some_or, Option.some.injEq] at isLast
      have member := List.mem_of_getLast? lastBlank
      exact not_mem_of_isBlank blank (by decide) (isLast ▸ member)

theorem EndsInNumber.of_suffix {after text : Text} (suffix : after <:+ text)
    (ends : EndsInNumber after) : EndsInNumber text := by
  obtain ⟨front, rfl⟩ := suffix
  obtain ⟨before, number, rfl⟩ := ends
  exact ⟨front ++ before, number, (List.append_assoc ..).symm⟩

/-- The last piece of a path is not blank, so no marker begins inside of it. -/
theorem not_isMarker_append {path after : Text} (blanks : Text) (number : PageNumber)
    (trimmed : Text.trimEnd path = path) (suffix : after <:+ path) (nonempty : after ≠ []) :
    ¬ IsMarker (after ++ blanks ++ number.text) := by
  rintro ⟨opening, _, blank, same⟩
  obtain ⟨rfl, -⟩ := PageNumber.append_text_inj same
  obtain ⟨last, member, solid⟩ := Text.exists_solid_of_suffix trimmed suffix nonempty
  simp [blank last (List.mem_append_left blanks member)] at solid

end Typeset
