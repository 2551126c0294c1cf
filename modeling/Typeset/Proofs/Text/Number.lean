import Mathlib.Algebra.Group.Nat.Defs
import Typeset.Text.Digit

/-!
Numbers as they are written in ASCII digits.  A number is written without leading zeros and is read
back from what was written.
-/

namespace Typeset.Text

theorem digitValue?_of_isDigit {c : Char} (digit : c.isDigit = true) :
    digitValue? c = some (c.toNat - '0'.toNat) := by
  simp only [Char.isDigit, Bool.and_eq_true, decide_eq_true_eq] at digit
  exact if_pos digit

theorem natural?_of_isDigit {digits : Text} (nonempty : digits ≠ [])
    (decimal : ∀ c ∈ digits, c.isDigit = true) :
    natural? digits = some (Nat.ofDigitChars 10 digits 0) := by
  have steps (read : Nat) (others : Text) (decimal : ∀ c ∈ others, c.isDigit = true) :
      others.foldlM (fun value c => (digitValue? c).map (10 * value + ·)) read =
        some (Nat.ofDigitChars 10 others read) := by
    induction others generalizing read with
    | nil => rfl
    | cons c others ih =>
        obtain ⟨digit, rest⟩ := List.forall_mem_cons.mp decimal
        rw [List.foldlM_cons, digitValue?_of_isDigit digit, Nat.ofDigitChars_cons]
        exact ih _ rest
  cases digits with
  | nil => exact absurd rfl nonempty
  | cons c others => exact steps 0 (c :: others) decimal

theorem isDigit_of_digitValue? {c : Char} {digit : Nat} (read : digitValue? c = some digit) :
    c.isDigit = true := by
  rw [digitValue?, Option.ite_none_right_eq_some] at read
  simp only [Char.isDigit, Bool.and_eq_true, decide_eq_true_eq]
  exact read.1

theorem isDigit_of_mem_ofNat {number : Nat} {c : Char} (member : c ∈ ofNat number) :
    c.isDigit = true :=
  Nat.isDigit_of_mem_toDigits (by decide) (by decide) member

theorem ofNat_ne_nil (number : Nat) : ofNat number ≠ [] :=
  Nat.toDigits_ne_nil

@[simp] theorem natural?_ofNat (number : Nat) : natural? (ofNat number) = some number := by
  rw [natural?_of_isDigit (ofNat_ne_nil number) fun c => isDigit_of_mem_ofNat]
  exact congrArg some Nat.ofDigitChars_ten_toDigits

theorem lineNumber?_ofNat (number : Nat) :
    lineNumber? (ofNat number) =
      if number < UInt32.size then some (UInt32.ofNat number) else none := by
  rw [lineNumber?, natural?_ofNat, Option.bind_some]

theorem head?_ofNat_ne_zero {number : Nat} (positive : 0 < number) :
    (ofNat number).head? ≠ some '0' := by
  induction number using Nat.strongRecOn with
  | ind number ih =>
      rcases Nat.lt_or_ge number 10 with single | several
      · have alone : ofNat number = [number.digitChar] := Nat.toDigits_of_lt_base single
        simp only [alone, List.head?_cons, ne_eq, Option.some.injEq, Nat.digitChar_eq_zero]
        omega
      · have split : ofNat number = ofNat (number / 10) ++ [(number % 10).digitChar] :=
          Nat.toDigits_of_base_le (by decide) several
        obtain ⟨first, others, front⟩ := List.exists_cons_of_ne_nil (ofNat_ne_nil (number / 10))
        have least := ih (number / 10) (by omega) (by omega)
        rw [front] at least
        rw [split, front]
        exact least

theorem ofNat_of_zero_cons {number : Nat} {rest : Text} (written : ofNat number = '0' :: rest) :
    rest = [] := by
  rcases Nat.eq_zero_or_pos number with rfl | positive
  · exact (List.cons.inj written).2.symm
  · exact absurd (congrArg List.head? written) (head?_ofNat_ne_zero positive)

def Spells (text : Text) (number : Nat) : Prop :=
  ∃ digits, (text = digits ∨ text = '+' :: digits) ∧ natural? digits = some number

def readOn? (value : Nat) (digits : Text) : Option Nat :=
  digits.foldlM (fun value c => (digitValue? c).map (10 * value + ·)) value

theorem readOn?_cons (value : Nat) (c : Char) (digits : Text) :
    readOn? value (c :: digits) =
      (digitValue? c).bind fun digit => readOn? (10 * value + digit) digits := by
  rw [readOn?, List.foldlM_cons]
  cases digitValue? c <;> rfl

theorem natural?_eq_readOn? {digits : Text} (nonempty : digits ≠ []) :
    natural? digits = readOn? 0 digits := by
  cases digits with
  | nil => exact absurd rfl nonempty
  | cons c digits => rfl

theorem isDigit_of_readOn? {value number : Nat} {digits : Text}
    (read : readOn? value digits = some number) : ∀ c ∈ digits, c.isDigit = true := by
  induction digits generalizing value with
  | nil => exact List.forall_mem_nil _
  | cons c digits ih =>
      rw [readOn?_cons, Option.bind_eq_some_iff] at read
      obtain ⟨digit, first, rest⟩ := read
      exact List.forall_mem_cons.mpr ⟨isDigit_of_digitValue? first, ih rest⟩

theorem natural?_eq_some_iff {digits : Text} {number : Nat} :
    natural? digits = some number ↔
      digits ≠ [] ∧ (∀ c ∈ digits, c.isDigit = true) ∧ Nat.ofDigitChars 10 digits 0 = number := by
  constructor
  · intro read
    have nonempty : digits ≠ [] := by
      rintro rfl
      cases read
    have decimal := isDigit_of_readOn? ((natural?_eq_readOn? nonempty).symm.trans read)
    rw [natural?_of_isDigit nonempty decimal] at read
    exact ⟨nonempty, decimal, Option.some.inj read⟩
  · rintro ⟨nonempty, decimal, rfl⟩
    exact natural?_of_isDigit nonempty decimal

theorem toNat_lineNumber?_eq_some_iff {digits : Text} {number : Nat} (nonempty : digits ≠ []) :
    (lineNumber? digits).map UInt32.toNat = some number ↔
      (∀ c ∈ digits, c.isDigit = true) ∧ Nat.ofDigitChars 10 digits 0 = number ∧
        number < 2 ^ 32 := by
  have fits (value : Nat) :
      (if value < UInt32.size then some (UInt32.ofNat value) else none).map UInt32.toNat =
        some number ↔ value = number ∧ number < 2 ^ 32 := by
    split
    · next small =>
        rw [Option.map_some, Option.some.injEq, UInt32.toNat_ofNat_of_lt' small]
        exact ⟨fun same => ⟨same, same ▸ small⟩, And.left⟩
    · next large =>
        refine iff_of_false (by simp) ?_
        rintro ⟨rfl, small⟩
        exact large small
  cases read : natural? digits with
  | none =>
      rw [lineNumber?, read, Option.bind_none]
      refine iff_of_false (by simp) ?_
      rintro ⟨decimal, -⟩
      rw [natural?_of_isDigit nonempty decimal] at read
      cases read
  | some value =>
      obtain ⟨-, decimal, rfl⟩ := natural?_eq_some_iff.mp read
      rw [lineNumber?, read, Option.bind_some, fits]
      exact ⟨fun same => ⟨decimal, same⟩, And.right⟩

theorem le_of_readOn? {value number : Nat} {digits : Text}
    (read : readOn? value digits = some number) : value ≤ number := by
  induction digits generalizing value with
  | nil =>
      cases read
      exact Nat.le_refl number
  | cons c digits ih =>
      rw [readOn?_cons, Option.bind_eq_some_iff] at read
      obtain ⟨digit, -, rest⟩ := read
      have further := ih rest
      omega

/-- The bound is tested digit by digit, but it is the whole number that counts. -/
theorem foldlM_next_eq_ok_iff {bound value number : Nat} {digits : Text} (below : value < bound) :
    digits.foldlM (numberBelow.next bound) value = .ok number ↔
      readOn? value digits = some number ∧ number < bound := by
  induction digits generalizing value with
  | nil =>
      constructor
      · rintro ⟨⟩
        exact ⟨rfl, below⟩
      · rintro ⟨⟨⟩, -⟩
        rfl
  | cons c digits ih =>
      rw [List.foldlM_cons, readOn?_cons, numberBelow.next]
      cases digitValue? c with
      | none =>
          refine iff_of_false nofun ?_
          rintro ⟨⟨⟩, -⟩
      | some digit =>
          by_cases small : 10 * value + digit < bound
          · simp only [small, if_true]
            exact ih small
          · simp only [small, if_false]
            refine iff_of_false nofun ?_
            rintro ⟨read, numberSmall⟩
            have large := le_of_readOn? read
            omega

theorem spells_plus_iff {number : Nat} {digits : Text} :
    Spells ('+' :: digits) number ↔ natural? digits = some number := by
  constructor
  · rintro ⟨others, rfl | same, read⟩
    · cases read
    · cases same
      exact read
  · intro read
    exact ⟨digits, .inr rfl, read⟩

theorem spells_iff {number : Nat} {text : Text} (unsigned : text.head? ≠ some '+') :
    Spells text number ↔ natural? text = some number := by
  constructor
  · rintro ⟨digits, rfl | rfl, read⟩
    · exact read
    · exact absurd rfl unsigned
  · intro read
    exact ⟨text, .inl rfl, read⟩

theorem numberBelow_eq_ok_iff {bound number : Nat} {text : Text} (positive : 0 < bound) :
    numberBelow bound text = .ok number ↔ Spells text number ∧ number < bound := by
  have nothing : Except.error NumberFault.invalidDigit = Except.ok number ↔
      natural? [] = some number ∧ number < bound :=
    iff_of_false (by simp) (by simp [natural?])
  have unsigned (c : Char) (digits : Text) :
      (c :: digits).foldlM (numberBelow.next bound) 0 = .ok number ↔
        natural? (c :: digits) = some number ∧ number < bound := by
    rw [natural?_eq_readOn? (List.cons_ne_nil c digits)]
    exact foldlM_next_eq_ok_iff positive
  cases text with
  | nil =>
      rw [spells_iff (by simp)]
      exact nothing
  | cons c digits =>
      by_cases plus : c = '+'
      · subst plus
        rw [spells_plus_iff]
        cases digits with
        | nil => exact nothing
        | cons c digits => exact unsigned c digits
      · rw [spells_iff (by simpa using plus), ← unsigned c digits]
        simp [numberBelow, plus]

end Typeset.Text
