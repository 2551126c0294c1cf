import Mathlib.Algebra.Group.Nat.Defs
import Typeset.Text.Utf8

/-!
Text that is encoded is decoded again.  The first byte of a character brings its highest bits and
says how many bytes follow, and each of these brings six more bits.
-/

namespace Typeset

namespace Utf8

variable {sequence : Unfinished} {code more : Nat}

def continuation (code : Nat) : Nat → Bytes
  | 0 => []
  | more + 1 => UInt8.ofNat (code / 64 ^ more % 64 + 128) :: continuation code more

/-- What was read are the bits of a code above those of the next byte and some more, and that byte
is within the bounds. -/
structure Unfinished.Awaits (sequence : Unfinished) (code more : Nat) : Prop where
  missing : sequence.missing = more + 1
  bits : sequence.bits = code / 64 ^ (more + 1)
  low : sequence.low.toNat ≤ code / 64 ^ more % 64 + 128
  high : code / 64 ^ more % 64 + 128 ≤ sequence.high.toNat

theorem Unfinished.Awaits.free (code more : Nat) :
    (Unfinished.free (code / 64 ^ (more + 1)) (more + 1)).Awaits code more where
  missing := rfl
  bits := rfl
  low := Nat.le_add_left _ _
  high := by
    have below := Nat.mod_lt (code / 64 ^ more) (by decide : 64 > 0)
    simp only [Unfinished.free, UInt8.reduceToNat]
    omega

theorem step_continuation (awaits : sequence.Awaits code more) :
    step (some sequence) (UInt8.ofNat (code / 64 ^ more % 64 + 128)) =
      match more with
      | 0 => ([Char.ofNat code], none)
      | more + 1 => ([], some (.free (code / 64 ^ (more + 1)) (more + 1))) := by
  obtain ⟨missing, read, low, high⟩ := awaits
  have byte : (UInt8.ofNat (code / 64 ^ more % 64 + 128)).toNat = code / 64 ^ more % 64 + 128 := by
    rw [UInt8.toNat_ofNat']
    omega
  have inside : sequence.low ≤ UInt8.ofNat (code / 64 ^ more % 64 + 128) ∧
      UInt8.ofNat (code / 64 ^ more % 64 + 128) ≤ sequence.high := by
    rw [UInt8.le_iff_toNat_le, UInt8.le_iff_toNat_le, byte]
    exact ⟨low, high⟩
  have bits : sequence.bits * 64 + (code / 64 ^ more % 64 + 128) % 64 = code / 64 ^ more := by
    rw [read, Nat.pow_succ, ← Nat.div_div_eq_div_mul]
    omega
  simp only [step, if_pos inside, byte, bits, missing]
  cases more with
  | zero => rw [Nat.pow_zero, Nat.div_one]
  | succ more => rfl

theorem decodeFrom_continuation (awaits : sequence.Awaits code more) (rest : Bytes) :
    decodeFrom (some sequence) (continuation code (more + 1) ++ rest) =
      Char.ofNat code :: decodeFrom none rest := by
  induction more generalizing sequence with
  | zero =>
      simp only [continuation, List.cons_append, List.nil_append, decodeFrom,
        step_continuation awaits]
  | succ more ih =>
      rw [continuation, List.cons_append, decodeFrom, step_continuation awaits]
      exact ih (.free code more)

theorem lead_ascii (below : code < 0x80) : lead (UInt8.ofNat code) = ([Char.ofNat code], none) := by
  have byte : (UInt8.ofNat code).toNat = code := by
    rw [UInt8.toNat_ofNat']
    omega
  unfold lead
  simp only [UInt8.lt_iff_toNat_lt, UInt8.reduceToNat, byte, if_pos below]

theorem exists_lead_two (low : 0x80 ≤ code) (high : code < 0x800) :
    ∃ sequence, lead (UInt8.ofNat (code / 64 % 32 + 192)) = ([], some sequence) ∧
      sequence.Awaits code 0 := by
  have byte : (UInt8.ofNat (code / 64 % 32 + 192)).toNat = code / 64 + 192 := by
    rw [UInt8.toNat_ofNat']
    omega
  have bits : (code / 64 + 192) % 32 = code / 64 ^ 1 := by omega
  refine ⟨_, ?_, .free code 0⟩
  unfold lead
  simp only [UInt8.lt_iff_toNat_lt, UInt8.reduceToNat, byte, bits]
  rw [if_neg (by omega), if_neg (by omega), if_pos (by omega)]

/-- The byte behind the first one is bounded where it would write a code that fits fewer bytes or
one that is half of a surrogate pair. -/
theorem exists_lead_three (low : 0x800 ≤ code) (high : code < 0x10000)
    (whole : code < 0xd800 ∨ 0xdfff < code) :
    ∃ sequence, lead (UInt8.ofNat (code / 4096 % 16 + 224)) = ([], some sequence) ∧
      sequence.Awaits code 1 := by
  have byte : (UInt8.ofNat (code / 4096 % 16 + 224)).toNat = code / 4096 + 224 := by
    rw [UInt8.toNat_ofNat']
    omega
  unfold lead
  simp only [UInt8.lt_iff_toNat_lt, ← UInt8.toNat_inj, UInt8.reduceToNat, byte]
  rw [if_neg (by omega), if_neg (by omega), if_neg (by omega)]
  split
  · refine ⟨_, rfl, rfl, ?_, ?_, ?_⟩ <;> simp only [UInt8.reduceToNat] <;> omega
  split
  · refine ⟨_, rfl, rfl, ?_, ?_, ?_⟩ <;> simp only [UInt8.reduceToNat] <;> omega
  · have bits : (code / 4096 + 224) % 16 = code / 64 ^ 2 := by omega
    rw [if_pos (by omega), bits]
    exact ⟨_, rfl, .free code 1⟩

theorem exists_lead_four (low : 0x10000 ≤ code) (high : code < 0x110000) :
    ∃ sequence, lead (UInt8.ofNat (code / 262144 % 8 + 240)) = ([], some sequence) ∧
      sequence.Awaits code 2 := by
  have byte : (UInt8.ofNat (code / 262144 % 8 + 240)).toNat = code / 262144 + 240 := by
    rw [UInt8.toNat_ofNat']
    omega
  unfold lead
  simp only [UInt8.lt_iff_toNat_lt, ← UInt8.toNat_inj, UInt8.reduceToNat, byte]
  rw [if_neg (by omega), if_neg (by omega), if_neg (by omega), if_neg (by omega),
    if_neg (by omega), if_neg (by omega)]
  split
  · refine ⟨_, rfl, rfl, ?_, ?_, ?_⟩ <;> simp only [UInt8.reduceToNat] <;> omega
  split
  · have bits : (code / 262144 + 240) % 8 = code / 64 ^ 3 := by omega
    rw [bits]
    exact ⟨_, rfl, .free code 2⟩
  · rw [if_pos (by omega)]
    refine ⟨_, rfl, rfl, ?_, ?_, ?_⟩ <;> simp only [UInt8.reduceToNat] <;> omega

theorem decodeFrom_lead {byte : UInt8} (begins : lead byte = ([], some sequence))
    (awaits : sequence.Awaits code more) (rest : Bytes) :
    decodeFrom none (byte :: (continuation code (more + 1) ++ rest)) =
      Char.ofNat code :: decodeFrom none rest := by
  have first : step none byte = ([], some sequence) := begins
  rw [decodeFrom, first]
  exact decodeFrom_continuation awaits rest

theorem decodeFrom_encodeChar (c : Char) (rest : Bytes) :
    decodeFrom none (String.utf8EncodeChar c ++ rest) = c :: decodeFrom none rest := by
  have valid : c.toNat < 0xd800 ∨ 0xdfff < c.toNat ∧ c.toNat < 0x110000 := c.valid
  have same : Char.ofNat c.toNat = c := Char.ofNat_toNat c
  have encoded : String.utf8EncodeChar c =
      if c.toNat ≤ 0x7f then [UInt8.ofNat c.toNat]
      else if c.toNat ≤ 0x7ff then
        [UInt8.ofNat (c.toNat / 64 % 32 + 192), UInt8.ofNat (c.toNat % 64 + 128)]
      else if c.toNat ≤ 0xffff then
        [UInt8.ofNat (c.toNat / 4096 % 16 + 224), UInt8.ofNat (c.toNat / 64 % 64 + 128),
          UInt8.ofNat (c.toNat % 64 + 128)]
      else
        [UInt8.ofNat (c.toNat / 262144 % 8 + 240), UInt8.ofNat (c.toNat / 4096 % 64 + 128),
          UInt8.ofNat (c.toNat / 64 % 64 + 128), UInt8.ofNat (c.toNat % 64 + 128)] := rfl
  rw [encoded]
  clear encoded
  generalize c.toNat = code at valid same ⊢
  subst same
  have last : code % 64 + 128 = code / 64 ^ 0 % 64 + 128 := by rw [Nat.pow_zero, Nat.div_one]
  rw [last]
  split
  · have first : step none (UInt8.ofNat code) = ([Char.ofNat code], none) :=
      lead_ascii (by omega)
    change decodeFrom none (UInt8.ofNat code :: rest) = _
    rw [decodeFrom, first]
    rfl
  split
  · obtain ⟨sequence, begins, awaits⟩ := exists_lead_two (show 0x80 ≤ code by omega) (by omega)
    exact decodeFrom_lead begins awaits rest
  split
  · obtain ⟨sequence, begins, awaits⟩ :=
      exists_lead_three (show 0x800 ≤ code by omega) (by omega) (by omega)
    exact decodeFrom_lead begins awaits rest
  · obtain ⟨sequence, begins, awaits⟩ := exists_lead_four (show 0x10000 ≤ code by omega) (by omega)
    exact decodeFrom_lead begins awaits rest

end Utf8

namespace Text

theorem decodeLossy_encode (text : Text) : decodeLossy (encode text) = text := by
  induction text with
  | nil => rfl
  | cons c text ih =>
      rw [decodeLossy, encode, List.flatMap_cons, Utf8.decodeFrom_encodeChar]
      exact congrArg (c :: ·) ih

theorem decode?_encode (text : Text) : decode? (encode text) = some text := by
  simp only [decode?, decodeLossy_encode, if_true]

end Text

end Typeset
