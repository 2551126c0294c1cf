import Typeset.Text.Basic

/-!
Decimal digits of every script, those of Unicode's category Nd, and the reading of numbers, which
takes ASCII digits only.
-/

namespace Typeset.Text

/-- The zeros of the scripts; the nine characters after each are its other digits. -/
def decimalZeros : List Nat := [
    0x30, 0x660, 0x6F0, 0x7C0, 0x966, 0x9E6, 0xA66, 0xAE6, 0xB66, 0xBE6, 0xC66, 0xCE6, 0xD66,
    0xDE6, 0xE50, 0xED0, 0xF20, 0x1040, 0x1090, 0x17E0, 0x1810, 0x1946, 0x19D0, 0x1A80, 0x1A90,
    0x1B50, 0x1BB0, 0x1C40, 0x1C50, 0xA620, 0xA8D0, 0xA900, 0xA9D0, 0xA9F0, 0xAA50, 0xABF0,
    0xFF10, 0x104A0, 0x10D30, 0x10D40, 0x11066, 0x110F0, 0x11136, 0x111D0, 0x112F0, 0x11450,
    0x114D0, 0x11650, 0x116C0, 0x116D0, 0x116DA, 0x11730, 0x118E0, 0x11950, 0x11BF0, 0x11C50,
    0x11D50, 0x11DA0, 0x11F50, 0x16130, 0x16A60, 0x16AC0, 0x16B50, 0x16D70, 0x1CCF0, 0x1D7CE,
    0x1D7D8, 0x1D7E2, 0x1D7EC, 0x1D7F6, 0x1E140, 0x1E2F0, 0x1E4F0, 0x1E5F1, 0x1E950, 0x1FBF0]

def isDecimalDigit (c : Char) : Bool :=
  decimalZeros.any fun first => first ≤ c.toNat && c.toNat < first + 10

def digitValue? (c : Char) : Option Nat :=
  if '0' ≤ c ∧ c ≤ '9' then some (c.toNat - '0'.toNat) else none

def natural? : Text → Option Nat
  | [] => none
  | digits => digits.foldlM (fun value c => (digitValue? c).map (10 * value + ·)) 0

def lineNumber? (digits : Text) : Option UInt32 :=
  (natural? digits).bind fun value => if value < UInt32.size then some (UInt32.ofNat value) else none

inductive NumberFault where
  | invalidDigit
  | tooLarge
deriving DecidableEq, Repr

def NumberFault.message : NumberFault → Text
  | .invalidDigit => "invalid digit found in string"
  | .tooLarge => "number too large to fit in target type"

/-- Reads a number below the bound, with an optional plus sign.  The first character at which the
reading fails decides the fault. -/
def numberBelow (bound : Nat) (text : Text) : Except NumberFault Nat :=
  let digits := match text with
    | '+' :: rest => rest
    | other => other
  match digits with
  | [] => .error .invalidDigit
  | digits => digits.foldlM (next bound) 0
where
  next (bound value : Nat) (c : Char) : Except NumberFault Nat :=
    match digitValue? c with
    | none => .error .invalidDigit
    | some digit =>
        if 10 * value + digit < bound then .ok (10 * value + digit) else .error .tooLarge

def integer? : Text → Option Int
  | '-' :: digits => (natural? digits).map fun value => -(value : Int)
  | '+' :: digits => (natural? digits).map fun value => (value : Int)
  | digits => (natural? digits).map fun value => (value : Int)

theorem isDecimalDigit_of_isDigit {c : Char} (h : c.isDigit = true) : isDecimalDigit c = true := by
  simp only [Char.isDigit, Bool.and_eq_true, decide_eq_true_eq] at h
  have low : 48 ≤ c.toNat := h.1
  have high : c.toNat ≤ 57 := h.2
  simp only [isDecimalDigit, decimalZeros, List.any_cons, Bool.or_eq_true, Bool.and_eq_true,
    decide_eq_true_eq]
  left
  omega

end Typeset.Text
