import Typeset.Proofs.Text.LineEnds
import Typeset.Proofs.Text.Search
import Typeset.Text.Utf8

/-!
Where ASCII comes from when bytes are decoded.  An ASCII character is decoded from its own byte only,
and behind that byte the decoder is as at the start.  So an ASCII word is read where its bytes stand
in a row and nowhere else, and decoding can be done line by line.
-/

namespace Typeset.Utf8

variable {byte : UInt8} {sequence : Unfinished} {state : Option Unfinished} {bits : Nat}

theorem toNat_ofNat {code : Nat} (valid : code.isValidChar) : (Char.ofNat code).toNat = code := by
  have decoded : Char.ofNat code = Char.ofNatAux code valid := dif_pos valid
  exact congrArg Char.toNat decoded

theorem eq_toNat_of_ofNat {c : Char} {code : Nat} (same : Char.ofNat code = c)
    (nonzero : c ≠ '\x00') : code = c.toNat := by
  by_cases valid : code.isValidChar
  · exact (toNat_ofNat valid).symm.trans (congrArg Char.toNat same)
  · have decoded : Char.ofNat code = Char.ofNat 0 := dif_neg valid
    exact absurd (same.symm.trans decoded) nonzero

theorem toNat_ofNat_of_ascii (ascii : byte < 0x80) :
    (Char.ofNat byte.toNat).toNat = byte.toNat := by
  rw [UInt8.lt_iff_toNat_lt] at ascii
  exact toNat_ofNat (.inl (Nat.lt_trans ascii (by decide)))

theorem eq_of_ofNat_eq {other : UInt8} (ascii : byte < 0x80) (plain : other < 0x80)
    (same : Char.ofNat byte.toNat = Char.ofNat other.toNat) : byte = other := by
  have codes := congrArg Char.toNat same
  rw [toNat_ofNat_of_ascii ascii, toNat_ofNat_of_ascii plain] at codes
  exact UInt8.toNat_inj.mp codes

theorem ofNat_not_mem (ascii : byte < 0x80) {letters : Text}
    (foreign : ∀ c ∈ letters, 0x80 ≤ c.toNat) : Char.ofNat byte.toNat ∉ letters := by
  intro member
  have beyond := foreign _ member
  rw [toNat_ofNat_of_ascii ascii] at beyond
  exact absurd ascii (UInt8.not_lt.mpr beyond)

/-- However the sequence goes on within its bounds, it comes to a character beyond ASCII. -/
inductive Unfinished.Foreign : Unfinished → Prop
  | last {bits : Nat} {low high : UInt8} : 0x80 ≤ low.toNat →
      (∀ byte : UInt8, low ≤ byte → byte ≤ high →
        0x80 ≤ bits * 64 + byte.toNat % 64 ∧ (bits * 64 + byte.toNat % 64).isValidChar) →
      Foreign ⟨bits, 1, low, high⟩
  | more {bits missing : Nat} {low high : UInt8} : 0x80 ≤ low.toNat →
      (∀ byte : UInt8, low ≤ byte → byte ≤ high →
        Foreign (.free (bits * 64 + byte.toNat % 64) (missing + 1))) →
      Foreign ⟨bits, missing + 2, low, high⟩

theorem Unfinished.Foreign.low (foreign : sequence.Foreign) : 0x80 ≤ sequence.low.toNat := by
  cases foreign with
  | last low _ => exact low
  | more low _ => exact low

def Sound (state : Option Unfinished) : Prop :=
  ∀ sequence ∈ state, sequence.Foreign

theorem sound_none : Sound none := by
  simp [Sound]

theorem sound_some (foreign : sequence.Foreign) : Sound (some sequence) := by
  simpa [Sound] using foreign

/-! Where the next byte is not narrowed, the bits read so far keep the code above ASCII, outside the
surrogates and below the end of all codes. -/

theorem foreign_free_one (least : 2 ≤ bits)
    (valid : bits < 0x360 ∨ 0x37f < bits ∧ bits < 0x4400) : (Unfinished.free bits 1).Foreign := by
  refine .last (Nat.le_refl _) fun byte _ _ => ⟨by omega, ?_⟩
  unfold Nat.isValidChar
  omega

theorem foreign_free_two (least : 1 ≤ bits) (whole : bits ≠ 0xd) (most : bits < 0x110) :
    (Unfinished.free bits 2).Foreign :=
  .more (Nat.le_refl _) fun _ _ _ => foreign_free_one (by omega) (by omega)

theorem foreign_free_three (least : 1 ≤ bits) (most : bits < 4) :
    (Unfinished.free bits 3).Foreign :=
  .more (Nat.le_refl _) fun _ _ _ => foreign_free_two (by omega) (by omega) (by omega)

inductive Starts (byte : UInt8) : Text × Option Unfinished → Prop
  | ascii : byte < 0x80 → Starts byte ([Char.ofNat byte.toNat], none)
  | stray : Starts byte ([replacement], none)
  | sequence {sequence : Unfinished} : sequence.Foreign → Starts byte ([], some sequence)

theorem starts_lead (byte : UInt8) : Starts byte (lead byte) := by
  unfold lead
  split
  · next ascii => exact .ascii ascii
  simp only [UInt8.lt_iff_toNat_lt, ← UInt8.toNat_inj, UInt8.reduceToNat]
  split
  · exact .stray
  split
  · exact .sequence (foreign_free_one (by omega) (by omega))
  -- Four first bytes narrow the second one, which else would write a code that fits fewer bytes,
  -- half of a surrogate pair or a code beyond the last one.
  split
  · exact .sequence
      (.more (by decide) fun next (low : 0xa0 ≤ next.toNat) (high : next.toNat ≤ 0xbf) =>
        foreign_free_one (by omega) (by omega))
  split
  · exact .sequence
      (.more (by decide) fun next (low : 0x80 ≤ next.toNat) (high : next.toNat ≤ 0x9f) =>
        foreign_free_one (by omega) (by omega))
  split
  · exact .sequence (foreign_free_two (by omega) (by omega) (by omega))
  split
  · exact .sequence
      (.more (by decide) fun next (low : 0x90 ≤ next.toNat) (high : next.toNat ≤ 0xbf) =>
        foreign_free_two (by omega) (by omega) (by omega))
  split
  · exact .sequence (foreign_free_three (by omega) (by omega))
  split
  · exact .sequence
      (.more (by decide) fun next (low : 0x80 ≤ next.toNat) (high : next.toNat ≤ 0x8f) =>
        foreign_free_two (by omega) (by omega) (by omega))
  · exact .stray

theorem step_ascii (sound : Sound state) (ascii : byte < 0x80) :
    step state byte = (finish state ++ [Char.ofNat byte.toNat], none) := by
  have begins : lead byte = ([Char.ofNat byte.toNat], none) := if_pos ascii
  cases state with
  | none => exact begins
  | some sequence =>
      -- No sequence goes on with a byte below 0x80.
      have low := (sound sequence rfl).low
      have outside : ¬(sequence.low ≤ byte ∧ byte ≤ sequence.high) := by
        simp only [UInt8.le_iff_toNat_le, UInt8.lt_iff_toNat_lt, UInt8.reduceToNat] at ascii ⊢
        omega
      simp only [step, if_neg outside, begins]
      rfl

theorem foreign_replacement : 0x80 ≤ replacement.toNat := by
  decide

theorem lead_foreign (foreign : 0x80 ≤ byte) :
    (∀ c ∈ (lead byte).1, 0x80 ≤ c.toNat) ∧ Sound (lead byte).2 := by
  have starts := starts_lead byte
  generalize lead byte = begun at starts ⊢
  cases starts with
  | ascii ascii => exact absurd foreign (UInt8.not_le.mpr ascii)
  | stray => exact ⟨List.forall_mem_singleton.mpr foreign_replacement, sound_none⟩
  | sequence begun => exact ⟨by simp, sound_some begun⟩

theorem step_foreign (sound : Sound state) (foreign : 0x80 ≤ byte) :
    (∀ c ∈ (step state byte).1, 0x80 ≤ c.toNat) ∧ Sound (step state byte).2 := by
  have begins := lead_foreign foreign
  cases state with
  | none => exact begins
  | some sequence =>
      have awaited := sound sequence rfl
      simp only [step]
      split
      · next inside =>
          cases awaited with
          | last _ ends =>
              obtain ⟨beyond, valid⟩ := ends byte inside.1 inside.2
              refine ⟨fun c member => ?_, sound_none⟩
              rw [List.mem_singleton.mp member, toNat_ofNat valid]
              exact beyond
          | more _ goesOn => exact ⟨by simp, sound_some (goesOn byte inside.1 inside.2)⟩
      · exact ⟨List.forall_mem_cons.mpr ⟨foreign_replacement, begins.1⟩, begins.2⟩

theorem sound_step (sound : Sound state) (byte : UInt8) : Sound (step state byte).2 := by
  by_cases ascii : byte < 0x80
  · rw [step_ascii sound ascii]
    exact sound_none
  · exact (step_foreign sound (UInt8.not_lt.mp ascii)).2

theorem finish_foreign (state : Option Unfinished) : ∀ c ∈ finish state, 0x80 ≤ c.toNat := by
  cases state with
  | none => simp [finish]
  | some sequence => exact List.forall_mem_singleton.mpr foreign_replacement

theorem decodeFrom_append_ascii (sound : Sound state) (ascii : byte < 0x80) (front rest : Bytes) :
    decodeFrom state (front ++ byte :: rest) =
      decodeFrom state front ++ Char.ofNat byte.toNat :: decodeFrom none rest := by
  induction front generalizing state with
  | nil => simp [decodeFrom, step_ascii sound ascii]
  | cons first front ih =>
      simp only [List.cons_append, decodeFrom, ih (sound_step sound first), List.append_assoc]

theorem exists_byte_of_decodeFrom (ascii : byte < 0x80) (sound : Sound state) {bytes : Bytes}
    {front rest : Text} (read : decodeFrom state bytes = front ++ Char.ofNat byte.toNat :: rest) :
    ∃ before behind, bytes = before ++ byte :: behind ∧
      decodeFrom state before = front ∧ decodeFrom none behind = rest := by
  induction bytes generalizing state front with
  | nil =>
      have member : Char.ofNat byte.toNat ∈ finish state := by
        rw [← decodeFrom, read]
        exact List.mem_append_right front List.mem_cons_self
      exact absurd member (ofNat_not_mem ascii (finish_foreign state))
  | cons first bytes ih =>
      by_cases plain : first < 0x80
      · have parts (bytes : Bytes) : decodeFrom state (first :: bytes) =
            finish state ++ Char.ofNat first.toNat :: decodeFrom none bytes :=
          decodeFrom_append_ascii sound plain [] bytes
        obtain ⟨later, rfl, left⟩ := Text.exists_behind
          (ofNat_not_mem ascii (finish_foreign state)) ((parts bytes).symm.trans read)
        rcases List.append_eq_cons_iff.mp left.symm with ⟨rfl, here⟩ | ⟨others, rfl, further⟩
        · obtain ⟨same, rfl⟩ := List.cons.inj here
          obtain rfl := eq_of_ofNat_eq ascii plain same
          exact ⟨[], bytes, rfl, (List.append_nil _).symm, rfl⟩
        · obtain ⟨before, behind, rfl, rfl, rfl⟩ := ih sound_none further
          exact ⟨first :: before, behind, rfl, parts before, rfl⟩
      · obtain ⟨foreign, next⟩ := step_foreign sound (UInt8.not_lt.mp plain)
        obtain ⟨later, rfl, left⟩ := Text.exists_behind (ofNat_not_mem ascii foreign) read
        obtain ⟨before, behind, rfl, rfl, rfl⟩ := ih next left
        exact ⟨first :: before, behind, rfl, rfl, rfl⟩

theorem decodeFrom_some_ne_nil (sequence : Unfinished) (bytes : Bytes) :
    decodeFrom (some sequence) bytes ≠ [] := by
  induction bytes generalizing sequence with
  | nil => simp [decodeFrom, finish]
  | cons byte bytes ih =>
      simp only [decodeFrom, step]
      split
      · split
        · simp
        · simp
        · simpa using ih _
      · simp

end Typeset.Utf8

namespace Typeset.Text

variable {bytes : Bytes} {front rest word : Text}

theorem decodeLossy_ne_nil (nonempty : bytes ≠ []) : decodeLossy bytes ≠ [] := by
  cases bytes with
  | nil => exact absurd rfl nonempty
  | cons byte bytes =>
      have starts := Utf8.starts_lead byte
      simp only [decodeLossy, Utf8.decodeFrom, Utf8.step]
      generalize Utf8.lead byte = begun at starts ⊢
      cases starts with
      | ascii _ => exact List.cons_ne_nil _ _
      | stray => exact List.cons_ne_nil _ _
      | sequence _ => exact Utf8.decodeFrom_some_ne_nil _ bytes

theorem decodeLossy_eq_append_ascii_iff {byte : UInt8} (ascii : byte < 0x80) :
    decodeLossy bytes = front ++ Char.ofNat byte.toNat :: rest ↔
      ∃ before behind, bytes = before ++ byte :: behind ∧ decodeLossy before = front ∧
        decodeLossy behind = rest := by
  constructor
  · exact Utf8.exists_byte_of_decodeFrom ascii Utf8.sound_none
  · rintro ⟨before, behind, rfl, rfl, rfl⟩
    exact Utf8.decodeFrom_append_ascii Utf8.sound_none ascii before behind

def IsAscii (text : Text) : Prop :=
  ∀ c ∈ text, c.toNat < 0x80

theorem isAscii_cons_iff {c : Char} : IsAscii (c :: word) ↔ c.toNat < 0x80 ∧ IsAscii word :=
  List.forall_mem_cons

instance : DecidablePred IsAscii :=
  fun text => decidable_of_iff (text.all fun c => c.toNat < 0x80) (by simp [IsAscii])

theorem exists_byte_of_isAscii {c : Char} (ascii : c.toNat < 0x80) :
    ∃ byte : UInt8, byte < 0x80 ∧ Char.ofNat byte.toNat = c ∧
      ∀ text, encode (c :: text) = byte :: encode text := by
  have code : (UInt8.ofNat c.toNat).toNat = c.toNat := by
    rw [UInt8.toNat_ofNat']
    omega
  refine ⟨UInt8.ofNat c.toNat, ?_, ?_, fun text => ?_⟩
  · rw [UInt8.lt_iff_toNat_lt, code]
    exact ascii
  · rw [code, Char.ofNat_toNat]
  · have encoded : String.utf8EncodeChar c = [UInt8.ofNat c.toNat] :=
      if_pos (Nat.le_of_lt_succ ascii)
    rw [encode, List.flatMap_cons, encoded]
    rfl

theorem decodeLossy_eq_word_append_iff (ascii : IsAscii word) :
    decodeLossy bytes = word ++ rest ↔
      ∃ behind, bytes = encode word ++ behind ∧ decodeLossy behind = rest := by
  induction word generalizing bytes with
  | nil => simp [encode]
  | cons c word ih =>
      obtain ⟨head, tail⟩ := isAscii_cons_iff.mp ascii
      obtain ⟨byte, plain, rfl, encoded⟩ := exists_byte_of_isAscii head
      have first := @decodeLossy_eq_append_ascii_iff bytes [] (word ++ rest) byte plain
      rw [encoded, List.cons_append]
      constructor
      · intro read
        obtain ⟨before, behind, rfl, nothing, later⟩ := first.mp read
        -- What stands before the word would have come to some character.
        obtain rfl : before = [] := by
          by_contra filled
          exact decodeLossy_ne_nil filled nothing
        obtain ⟨behind, rfl, rfl⟩ := (ih tail).mp later
        exact ⟨behind, rfl, rfl⟩
      · rintro ⟨behind, rfl, rfl⟩
        exact first.mpr ⟨[], _, rfl, rfl, (ih tail).mpr ⟨behind, rfl, rfl⟩⟩

/-- An ASCII word is read where its bytes stand in a row, and nowhere else. -/
theorem decodeLossy_eq_append_word_iff (nonempty : word ≠ []) (ascii : IsAscii word) :
    decodeLossy bytes = front ++ (word ++ rest) ↔
      ∃ before behind, bytes = before ++ (encode word ++ behind) ∧ decodeLossy before = front ∧
        decodeLossy behind = rest := by
  obtain ⟨c, others, rfl⟩ := List.exists_cons_of_ne_nil nonempty
  obtain ⟨head, tail⟩ := isAscii_cons_iff.mp ascii
  obtain ⟨byte, plain, rfl, encoded⟩ := exists_byte_of_isAscii head
  rw [encoded, List.cons_append, decodeLossy_eq_append_ascii_iff plain]
  constructor
  · rintro ⟨before, behind, rfl, rfl, later⟩
    obtain ⟨behind, rfl, rfl⟩ := (decodeLossy_eq_word_append_iff tail).mp later
    exact ⟨before, behind, rfl, rfl, rfl⟩
  · rintro ⟨before, behind, rfl, rfl, rfl⟩
    exact ⟨before, _, rfl, rfl, (decodeLossy_eq_word_append_iff tail).mpr ⟨behind, rfl, rfl⟩⟩

theorem infix_decodeLossy_iff (ascii : IsAscii word) :
    word <:+: decodeLossy bytes ↔ encode word <:+: bytes := by
  by_cases empty : word = []
  · rw [empty]
    exact iff_of_true List.nil_infix List.nil_infix
  constructor
  · rintro ⟨front, rest, read⟩
    rw [List.append_assoc] at read
    obtain ⟨before, behind, rfl, -, -⟩ :=
      (decodeLossy_eq_append_word_iff empty ascii).mp read.symm
    exact ⟨before, behind, List.append_assoc before _ behind⟩
  · rintro ⟨before, behind, rfl⟩
    refine ⟨decodeLossy before, decodeLossy behind, ?_⟩
    rw [List.append_assoc, List.append_assoc, eq_comm]
    exact (decodeLossy_eq_append_word_iff empty ascii).mpr ⟨before, behind, rfl, rfl, rfl⟩

theorem lineFeed_not_mem_decodeLossy (noBreak : 10 ∉ bytes) : '\n' ∉ decodeLossy bytes := by
  intro member
  obtain ⟨front, rest, read⟩ := List.append_of_mem member
  obtain ⟨before, behind, rfl, -, -⟩ :=
    (@decodeLossy_eq_append_ascii_iff bytes front rest 10 (by decide)).mp read
  exact noBreak (List.mem_append_right before List.mem_cons_self)

/-- Bytes can be decoded line by line. -/
theorem decodeLossy_lines (bytes : Bytes) :
    (cutAfter 10 bytes).map decodeLossy = cutAfter '\n' (decodeLossy bytes) := by
  induction bytes using cutAfter_induction (10 : UInt8) with
  | nil => rfl
  | last items noStop nonempty =>
      have noFeed := lineFeed_not_mem_decodeLossy noStop
      rw [cutAfter_last noStop nonempty, cutAfter_last noFeed (decodeLossy_ne_nil nonempty)]
      rfl
  | piece front rest noStop ih =>
      have noFeed := lineFeed_not_mem_decodeLossy noStop
      have broken (rest : Bytes) : decodeLossy (front ++ 10 :: rest) =
          decodeLossy front ++ '\n' :: decodeLossy rest :=
        Utf8.decodeFrom_append_ascii Utf8.sound_none (by decide) front rest
      rw [cutAfter_stop noStop, List.map_cons, ih, broken, broken, cutAfter_stop noFeed]
      rfl

end Typeset.Text
