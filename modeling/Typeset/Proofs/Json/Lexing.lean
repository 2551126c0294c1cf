import Typeset.Json.Token
import Typeset.Json.Writer
import Typeset.Proofs.Text.Ends
import Typeset.Proofs.Text.Number

/-!
The tokens of what is written, one kind at a time.  A mark or a string is complete in itself; a word
is complete where something follows it that cannot be in a word.
-/

namespace Typeset.Json

def Piece.WellFormed : Piece → Prop
  | .char _ => True
  | .half unit => 0xd800 ≤ unit ∧ unit < 0xe000

def ahead (tokens : List Token) (others? : Option (List Token)) : Option (List Token) :=
  others?.map (tokens ++ ·)

@[simp] theorem ahead_nil (others? : Option (List Token)) : ahead [] others? = others? := by
  cases others? <;> rfl

@[simp] theorem ahead_ahead (first second : List Token) (others? : Option (List Token)) :
    ahead first (ahead second others?) = ahead (first ++ second) others? := by
  cases others? with
  | none => rfl
  | some others => simp [ahead]

@[simp] theorem ahead_some (tokens others : List Token) :
    ahead tokens (some others) = some (tokens ++ others) := rfl

namespace Lexing

theorem tokens?_cons {state next : Lexing} {c : Char} {tokens : List Token}
    (stepped : state.step? c = some (tokens, next)) (rest : Text) :
    state.tokens? (c :: rest) = ahead tokens (next.tokens? rest) := by
  simp only [tokens?, stepped, Option.bind_eq_bind, Option.bind_some, ahead]
  cases next.tokens? rest <;> rfl

theorem tokens?_blanks {blanks : Text} (blank : ∀ c ∈ blanks, isBlank c = true) (rest : Text) :
    between.tokens? (blanks ++ rest) = between.tokens? rest := by
  induction blanks with
  | nil => rfl
  | cons c blanks ih =>
      obtain ⟨first, others⟩ := List.forall_mem_cons.mp blank
      have stepped : between.step? c = some ([], between) := by simp [step?, start?, first]
      rw [List.cons_append, tokens?_cons stepped, ih others, ahead_nil]

theorem tokens?_mark {c : Char} {token : Token} (marks : mark? c = some token) (rest : Text) :
    between.tokens? (c :: rest) = ahead [token] (between.tokens? rest) := by
  have stepped : between.step? c = some ([token], between) := by
    unfold mark? at marks
    split at marks <;> cases marks <;> rfl
  exact tokens?_cons stepped rest

theorem start?_of_isWordChar {c : Char} (inWord : isWordChar c = true) :
    start? c = some ([], word [c]) := by
  have solid : isBlank c = false := by
    rw [Bool.eq_false_iff]
    intro blank
    simp only [isBlank, Bool.or_eq_true, decide_eq_true_eq] at blank
    rcases blank with ((rfl | rfl) | rfl) | rfl <;> cases inWord
  have unquoted : c ≠ '"' := by
    rintro rfl
    cases inWord
  simp [start?, solid, unquoted, inWord]

theorem tokens?_word_append {text : Text} (inWord : ∀ c ∈ text, isWordChar c = true)
    (read rest : Text) :
    (word read).tokens? (text ++ rest) = (word (text.reverse ++ read)).tokens? rest := by
  induction text generalizing read with
  | nil => rfl
  | cons c text ih =>
      obtain ⟨first, others⟩ := List.forall_mem_cons.mp inWord
      have stepped : (word read).step? c = some ([], word (c :: read)) := by simp [step?, first]
      rw [List.cons_append, tokens?_cons stepped, ih others, ahead_nil]
      simp

theorem tokens?_word_end {read rest : Text} {token : Token}
    (means : wordToken? read.reverse = some token) (stops : Text.Stops isWordChar rest) :
    (word read).tokens? rest = ahead [token] (between.tokens? rest) := by
  cases rest with
  | nil => simp [tokens?, finish?, means]
  | cons c rest =>
      have outside : isWordChar c = false := stops c rfl
      cases started : start? c with
      | none => simp [tokens?, step?, outside, means, started, ahead]
      | some next =>
          have stepped : (word read).step? c = some (token :: next.1, next.2) := by
            simp [step?, outside, means, started]
          rw [tokens?_cons stepped, tokens?_cons (show between.step? c = some next from started),
            ahead_ahead]
          rfl

theorem tokens?_word {text rest : Text} {token : Token} (means : wordToken? text = some token)
    (inWord : ∀ c ∈ text, isWordChar c = true) (stops : Text.Stops isWordChar rest) :
    between.tokens? (text ++ rest) = ahead [token] (between.tokens? rest) := by
  cases text with
  | nil => cases means
  | cons c text =>
      obtain ⟨first, others⟩ := List.forall_mem_cons.mp inWord
      have started : between.step? c = some ([], word [c]) := start?_of_isWordChar first
      rw [List.cons_append, tokens?_cons started, ahead_nil, tokens?_word_append others]
      exact tokens?_word_end (by simpa using means) stops

theorem isWordChar_of_isDigit {c : Char} (digit : c.isDigit = true) : isWordChar c = true := by
  simp [isWordChar, Char.isAlphanum, digit]

theorem of_digits? {text digits rest : Text} (read : digits? text = some (digits, rest)) :
    text = digits ++ rest ∧ ∀ c ∈ digits, isWordChar c = true := by
  have split := List.takeWhile_append_dropWhile (p := Char.isDigit) (l := text)
  unfold digits? at read
  split at read
  · cases read
  · cases read
    refine ⟨split.symm, fun c member => isWordChar_of_isDigit (List.mem_takeWhile_imp member)⟩

/-- What is read of a text can be in a word, if what follows can. -/
def InWord (text rest : Text) : Prop :=
  (∀ c ∈ rest, isWordChar c = true) → ∀ c ∈ text, isWordChar c = true

theorem InWord.cons {c : Char} {text rest : Text} (first : isWordChar c = true)
    (others : InWord text rest) : InWord (c :: text) rest :=
  fun behind => List.forall_mem_cons.mpr ⟨first, others behind⟩

theorem inWord_digits? {text digits rest : Text} (read : digits? text = some (digits, rest)) :
    InWord text rest := by
  obtain ⟨rfl, inWord⟩ := of_digits? read
  intro behind
  exact List.forall_mem_append.mpr ⟨inWord, behind⟩

theorem inWord_fraction? {text rest : Text} (read : fraction? text = some rest) :
    InWord text rest := by
  unfold fraction? at read
  split at read
  · obtain ⟨⟨digits, behind⟩, found, rfl⟩ := Option.map_eq_some_iff.mp read
    exact .cons rfl (inWord_digits? found)
  · cases read
    exact id

theorem inWord_dropSign (text : Text) : InWord text (dropSign text) := by
  unfold dropSign
  split
  · exact .cons rfl id
  · exact .cons rfl id
  · exact id

theorem inWord_exponent? {text rest : Text} (read : exponent? text = some rest) :
    InWord text rest := by
  unfold exponent? at read
  split at read
  · obtain ⟨⟨digits, behind⟩, found, rfl⟩ := Option.map_eq_some_iff.mp read
    exact .cons rfl fun inWord => inWord_dropSign _ (inWord_digits? found inWord)
  · obtain ⟨⟨digits, behind⟩, found, rfl⟩ := Option.map_eq_some_iff.mp read
    exact .cons rfl fun inWord => inWord_dropSign _ (inWord_digits? found inWord)
  · cases read
    exact id

theorem inWord_isUnsigned {word : Text} (number : isUnsigned word = true) : InWord word [] := by
  unfold isUnsigned at number
  split at number
  · cases number
  · next digits rest read =>
      obtain ⟨behind, fraction, exponent⟩ :=
        Option.bind_eq_some_iff.mp (of_decide_eq_true number)
      intro nothing
      exact inWord_digits? read (inWord_fraction? fraction (inWord_exponent? exponent nothing))
  · cases number

theorem isWordChar_of_isNumber {word : Text} (number : isNumber word = true) :
    ∀ c ∈ word, isWordChar c = true := by
  unfold isNumber at number
  split at number
  · exact (inWord_isUnsigned number).cons rfl (by simp)
  · exact inWord_isUnsigned number (by simp)

theorem wordToken?_of_isNumber {word : Text} (number : isNumber word = true) :
    wordToken? word = some (.number word) := by
  have other {text : Text} (noNumber : isNumber text = false) : word ≠ text := by
    rintro rfl
    rw [number] at noNumber
    cases noNumber
  rw [wordToken?, if_neg (other (by decide)), if_neg (other (by decide)),
    if_neg (other (by decide)), if_pos number]

theorem tokens?_number {lexeme rest : Text} (number : isNumber lexeme = true)
    (stops : Text.Stops isWordChar rest) :
    between.tokens? (lexeme ++ rest) = ahead [.number lexeme] (between.tokens? rest) :=
  tokens?_word (wordToken?_of_isNumber number) (isWordChar_of_isNumber number) stops

theorem digits?_ofNat (number : Nat) :
    digits? (Text.ofNat number) = some (Text.ofNat number, []) := by
  have digits : ∀ c ∈ Text.ofNat number, c.isDigit = true := fun c => Text.isDigit_of_mem_ofNat
  have taken := Text.takeWhile_append_stop digits Text.Stops.nil
  have left := Text.dropWhile_append_stop digits Text.Stops.nil
  rw [List.append_nil] at taken left
  rw [digits?, taken, left]
  cases written : Text.ofNat number with
  | nil => exact absurd written (Text.ofNat_ne_nil number)
  | cons c rest => rfl

theorem isUnsigned_ofNat (number : Nat) : isUnsigned (Text.ofNat number) = true := by
  rw [isUnsigned, digits?_ofNat]
  split
  · next digits c rest _ read =>
      obtain ⟨written, -⟩ := Prod.mk.inj (Option.some.inj read)
      cases Text.ofNat_of_zero_cons written
  · next digits rest _ read =>
      obtain ⟨-, rfl⟩ := Prod.mk.inj (Option.some.inj read)
      rfl
  · next missing => cases missing

theorem isNumber_ofNat (number : Nat) : isNumber (Text.ofNat number) = true := by
  unfold isNumber
  split
  · next rest written =>
      have digit : '-'.isDigit = true :=
        Text.isDigit_of_mem_ofNat (written ▸ List.mem_cons_self)
      cases digit
  · exact isUnsigned_ofNat number

theorem hexValue?_digitChar {value : Nat} (small : value < 16) :
    hexValue? (Nat.digitChar value) = some value := by
  have all : ∀ value < 16, hexValue? (Nat.digitChar value) = some value := by decide
  exact all value small

theorem step?_unit {value : Nat} (small : value < 16) (read : List Piece) (missing before : Nat) :
    (unit read (missing + 2) before).step? (Nat.digitChar value) =
      some ([], unit read (missing + 1) (16 * before + value)) := by
  simp only [step?, hexValue?_digitChar small, Option.bind_eq_bind, Option.bind_some]

theorem step?_lastUnit {value : Nat} (small : value < 16) (read : List Piece) (before : Nat) :
    (unit read 1 before).step? (Nat.digitChar value) =
      some ([], string (pieceOfUnit (16 * before + value) :: read)) := by
  simp only [step?, hexValue?_digitChar small, Option.bind_eq_bind, Option.bind_some]

theorem tokens?_escapeUnit {unit : Nat} (small : unit < 0x10000) (read : List Piece)
    (rest : Text) :
    (string read).tokens? (escapeUnit unit ++ rest) =
      (string (pieceOfUnit unit :: read)).tokens? rest := by
  have digit (value : Nat) : value % 16 < 16 := Nat.mod_lt value (by decide)
  have escapes : (string read).step? '\\' = some ([], escape read) := rfl
  have units : (escape read).step? 'u' = some ([], .unit read 4 0) := rfl
  have whole :
      16 * (16 * (16 * (16 * 0 + unit / 0x1000 % 16) + unit / 0x100 % 16) + unit / 16 % 16) +
        unit % 16 = unit := by omega
  simp only [escapeUnit, List.cons_append, List.nil_append]
  rw [tokens?_cons escapes, tokens?_cons units, tokens?_cons (step?_unit (digit _) read 2 0),
    tokens?_cons (step?_unit (digit _) read 1 _), tokens?_cons (step?_unit (digit _) read 0 _),
    tokens?_cons (step?_lastUnit (digit _) read _), whole]
  simp only [ahead_nil]

theorem tokens?_escaped {c meant : Char} (means : escaped? c = some meant) (read : List Piece)
    (rest : Text) :
    (string read).tokens? ('\\' :: c :: rest) = (string (.char meant :: read)).tokens? rest := by
  have escapes : (string read).step? '\\' = some ([], escape read) := rfl
  have other : c ≠ 'u' := by
    rintro rfl
    cases means
  have meansIt : (escape read).step? c = some ([], string (.char meant :: read)) := by
    simp [step?, other, means]
  rw [tokens?_cons escapes, tokens?_cons meansIt, ahead_nil, ahead_nil]

theorem tokens?_escapeChar (c : Char) (read : List Piece) (rest : Text) :
    (string read).tokens? (escapeChar c ++ rest) = (string (.char c :: read)).tokens? rest := by
  unfold escapeChar
  split
  · exact tokens?_escaped rfl read rest
  · exact tokens?_escaped rfl read rest
  · exact tokens?_escaped rfl read rest
  · exact tokens?_escaped rfl read rest
  · exact tokens?_escaped rfl read rest
  · exact tokens?_escaped rfl read rest
  · exact tokens?_escaped rfl read rest
  · next quote backslash _ _ _ _ _ =>
      split
      · next control =>
          have code : c.toNat < 32 := control
          have same : pieceOfUnit c.toNat = .char c := by
            rw [pieceOfUnit, if_neg (by omega), Char.ofNat_toNat]
          rw [tokens?_escapeUnit (by omega), same]
      · next printable =>
          have kept : (string read).step? c = some ([], string (.char c :: read)) := by
            simp only [step?, insideString?]
            rw [if_neg quote, if_neg backslash, if_neg printable]
          rw [List.singleton_append, tokens?_cons kept, ahead_nil]

theorem tokens?_escapePiece {piece : Piece} (wellFormed : piece.WellFormed) (read : List Piece)
    (rest : Text) :
    (string read).tokens? (escapePiece piece ++ rest) = (string (piece :: read)).tokens? rest := by
  cases piece with
  | char c => exact tokens?_escapeChar c read rest
  | half unit =>
      obtain ⟨above, below⟩ := wellFormed
      have same : pieceOfUnit unit = .half unit := if_pos ⟨above, below⟩
      rw [escapePiece, tokens?_escapeUnit (by omega), same]

theorem tokens?_pieces {pieces : List Piece} (wellFormed : ∀ piece ∈ pieces, piece.WellFormed)
    (read : List Piece) (rest : Text) :
    (string read).tokens? (pieces.flatMap escapePiece ++ rest) =
      (string (pieces.reverse ++ read)).tokens? rest := by
  induction pieces generalizing read with
  | nil => rfl
  | cons piece pieces ih =>
      obtain ⟨first, others⟩ := List.forall_mem_cons.mp wellFormed
      rw [List.flatMap_cons, List.append_assoc, tokens?_escapePiece first, ih others]
      simp

theorem tokens?_writeString {pieces : List Piece}
    (wellFormed : ∀ piece ∈ pieces, piece.WellFormed) (rest : Text) :
    between.tokens? (writeString pieces ++ rest) =
      ahead [.string pieces] (between.tokens? rest) := by
  have opened : between.step? '"' = some ([], string []) := rfl
  have closed : (string pieces.reverse).step? '"' = some ([.string pieces], between) := by
    simp [step?, insideString?]
  rw [writeString, List.cons_append, List.cons_append, tokens?_cons opened, ahead_nil,
    List.append_assoc, tokens?_pieces wellFormed, List.append_nil, List.singleton_append,
    tokens?_cons closed]

end Lexing

end Typeset.Json
