import Typeset.Json.Reader
import Typeset.Proofs.Json.Lexing

/-!
A value that is written, in either style, is read back.  Its tokens stand between the two: writing
gives a text of exactly these tokens, and reading takes them one by one to where the value is
complete.
-/

namespace Typeset.Json

mutual

def Value.WellFormed : Value → Prop
  | .null => True
  | .bool _ => True
  | .number lexeme => isNumber lexeme = true
  | .string pieces => ∀ piece ∈ pieces, piece.WellFormed
  | .array items => ItemsWellFormed items
  | .object members => MembersWellFormed members

def ItemsWellFormed : List Value → Prop
  | [] => True
  | item :: items => item.WellFormed ∧ ItemsWellFormed items

def MembersWellFormed : List (List Piece × Value) → Prop
  | [] => True
  | (key, value) :: members =>
      (∀ piece ∈ key, piece.WellFormed) ∧ value.WellFormed ∧ MembersWellFormed members

end

mutual

def Value.tokens : Value → List Token
  | .null => [.null]
  | .bool value => [.bool value]
  | .number lexeme => [.number lexeme]
  | .string pieces => [.string pieces]
  | .array [] => [.openArray, .closeArray]
  | .array (item :: items) => .openArray :: (item.tokens ++ (itemTokens items ++ [.closeArray]))
  | .object [] => [.openObject, .closeObject]
  | .object ((key, value) :: members) =>
      .openObject :: .string key :: .colon ::
        (value.tokens ++ (memberTokens members ++ [.closeObject]))

def itemTokens : List Value → List Token
  | [] => []
  | item :: items => .comma :: (item.tokens ++ itemTokens items)

def memberTokens : List (List Piece × Value) → List Token
  | [] => []
  | (key, value) :: members =>
      .comma :: .string key :: .colon :: (value.tokens ++ memberTokens members)

end

variable {rest : Text}

theorem isBlank_of_mem_lineBreak {style : Style} {depth : Nat} :
    ∀ c ∈ style.lineBreak depth, isBlank c = true := by
  cases style with
  | compact => simp [Style.lineBreak]
  | indented =>
      intro c member
      rcases List.mem_cons.mp member with rfl | space
      · rfl
      · rw [List.eq_of_mem_replicate space]
        rfl

theorem isBlank_of_mem_gap {style : Style} : ∀ c ∈ style.gap, isBlank c = true := by
  cases style <;> simp [Style.gap, isBlank]

theorem stops_lineBreak (style : Style) (depth : Nat) (stops : Text.Stops isWordChar rest) :
    Text.Stops isWordChar (style.lineBreak depth ++ rest) := by
  cases style with
  | compact => exact stops
  | indented => exact .cons rfl _

theorem stops_writeItems (style : Style) (depth : Nat) (items : List Value)
    (stops : Text.Stops isWordChar rest) :
    Text.Stops isWordChar (writeItems style depth items ++ rest) := by
  cases items with
  | nil => exact stops
  | cons item items => exact .cons rfl _

theorem stops_writeMembers (style : Style) (depth : Nat) (members : List (List Piece × Value))
    (stops : Text.Stops isWordChar rest) :
    Text.Stops isWordChar (writeMembers style depth members ++ rest) := by
  cases members with
  | nil => exact stops
  | cons member members => exact .cons rfl _

open Lexing

mutual

theorem tokens?_writeAt (style : Style) : ∀ (depth : Nat) (value : Value) (rest : Text),
    value.WellFormed → Text.Stops isWordChar rest →
      between.tokens? (writeAt style depth value ++ rest) =
        ahead value.tokens (between.tokens? rest)
  | _, .null, rest, _, stops => tokens?_word rfl (List.all_eq_true.mp rfl) stops
  | _, .bool true, rest, _, stops => tokens?_word rfl (List.all_eq_true.mp rfl) stops
  | _, .bool false, rest, _, stops => tokens?_word rfl (List.all_eq_true.mp rfl) stops
  | _, .number lexeme, rest, number, stops => tokens?_number number stops
  | _, .string pieces, rest, wellFormed, _ => tokens?_writeString wellFormed rest
  | _, .array [], rest, _, _ => by
      simp only [writeAt, List.cons_append, List.nil_append, Value.tokens]
      rw [tokens?_mark rfl, tokens?_mark rfl, ahead_ahead]
      rfl
  | depth, .array (item :: items), rest, wellFormed, stops => by
      obtain ⟨first, others⟩ := wellFormed
      have closing : Text.Stops isWordChar (']' :: rest) := .cons rfl rest
      have behind := stops_lineBreak style depth closing
      simp only [writeAt, List.cons_append, List.append_assoc, List.nil_append, Value.tokens]
      rw [tokens?_mark rfl, tokens?_blanks isBlank_of_mem_lineBreak,
        tokens?_writeAt style (depth + 1) item _ first
          (stops_writeItems style (depth + 1) items behind),
        tokens?_writeItems style (depth + 1) items _ others behind,
        tokens?_blanks isBlank_of_mem_lineBreak, tokens?_mark rfl]
      simp only [ahead_ahead, List.cons_append, List.nil_append]
  | _, .object [], rest, _, _ => by
      simp only [writeAt, List.cons_append, List.nil_append, Value.tokens]
      rw [tokens?_mark rfl, tokens?_mark rfl, ahead_ahead]
      rfl
  | depth, .object ((key, value) :: members), rest, wellFormed, stops => by
      obtain ⟨named, first, others⟩ := wellFormed
      have closing : Text.Stops isWordChar ('}' :: rest) := .cons rfl rest
      have behind := stops_lineBreak style depth closing
      simp only [writeAt, List.cons_append, List.append_assoc, List.nil_append, Value.tokens]
      rw [tokens?_mark rfl, tokens?_blanks isBlank_of_mem_lineBreak, tokens?_writeString named,
        tokens?_mark rfl, tokens?_blanks isBlank_of_mem_gap,
        tokens?_writeAt style (depth + 1) value _ first
          (stops_writeMembers style (depth + 1) members behind),
        tokens?_writeMembers style (depth + 1) members _ others behind,
        tokens?_blanks isBlank_of_mem_lineBreak, tokens?_mark rfl]
      simp only [ahead_ahead, List.cons_append, List.nil_append]

theorem tokens?_writeItems (style : Style) : ∀ (depth : Nat) (items : List Value) (rest : Text),
    ItemsWellFormed items → Text.Stops isWordChar rest →
      between.tokens? (writeItems style depth items ++ rest) =
        ahead (itemTokens items) (between.tokens? rest)
  | _, [], rest, _, _ => (ahead_nil _).symm
  | depth, item :: items, rest, wellFormed, stops => by
      obtain ⟨first, others⟩ := wellFormed
      simp only [writeItems, List.cons_append, List.append_assoc, itemTokens]
      rw [tokens?_mark rfl, tokens?_blanks isBlank_of_mem_lineBreak,
        tokens?_writeAt style depth item _ first (stops_writeItems style depth items stops),
        tokens?_writeItems style depth items _ others stops]
      simp only [ahead_ahead, List.cons_append, List.nil_append]

theorem tokens?_writeMembers (style : Style) :
    ∀ (depth : Nat) (members : List (List Piece × Value)) (rest : Text),
      MembersWellFormed members → Text.Stops isWordChar rest →
        between.tokens? (writeMembers style depth members ++ rest) =
          ahead (memberTokens members) (between.tokens? rest)
  | _, [], rest, _, _ => (ahead_nil _).symm
  | depth, (key, value) :: members, rest, wellFormed, stops => by
      obtain ⟨named, first, others⟩ := wellFormed
      simp only [writeMembers, List.cons_append, List.append_assoc, memberTokens]
      rw [tokens?_mark rfl, tokens?_blanks isBlank_of_mem_lineBreak, tokens?_writeString named,
        tokens?_mark rfl, tokens?_blanks isBlank_of_mem_gap,
        tokens?_writeAt style depth value _ first (stops_writeMembers style depth members stops),
        tokens?_writeMembers style depth members _ others stops]
      simp only [ahead_ahead, List.cons_append, List.nil_append]

end

def Token.opens : Token → Bool
  | .closeArray => false
  | .closeObject => false
  | .comma => false
  | .colon => false
  | _ => true

/-- A value may stand at the place, in the given containers. -/
def Place.Expects (place : Place) (outer : List Frame) : Prop :=
  ∀ token : Token, token.opens = true → place.step? token = open? outer token

theorem expects_value (outer : List Frame) : (Place.value outer).Expects outer :=
  fun _ _ => rfl

theorem expects_firstItem (outer : List Frame) :
    (Place.firstItem outer).Expects (.item [] :: outer) := by
  intro token opens
  cases token with
  | closeArray => cases opens
  | _ => rfl

def Place.reach? (place : Place) (tokens : List Token) : Option Place :=
  tokens.foldlM step? place

theorem reach?_cons {place next : Place} {token : Token} (stepped : place.step? token = some next)
    (tokens : List Token) : place.reach? (token :: tokens) = next.reach? tokens := by
  rw [Place.reach?, List.foldlM_cons, stepped]
  rfl

theorem reach?_append {place next : Place} {first : List Token}
    (reached : place.reach? first = some next) (second : List Token) :
    place.reach? (first ++ second) = next.reach? second := by
  rw [Place.reach?] at reached
  rw [Place.reach?, List.foldlM_append, reached]
  rfl

mutual

theorem reach?_tokens : ∀ (value : Value) (place : Place) (outer : List Frame),
    place.Expects outer → place.reach? value.tokens = some (.behind value outer)
  | .null, place, outer, expects => reach?_cons (expects .null rfl) []
  | .bool value, place, outer, expects => reach?_cons (expects (.bool value) rfl) []
  | .number lexeme, place, outer, expects => reach?_cons (expects (.number lexeme) rfl) []
  | .string pieces, place, outer, expects => reach?_cons (expects (.string pieces) rfl) []
  | .array [], place, outer, expects => reach?_cons (expects .openArray rfl) [.closeArray]
  | .array (item :: items), place, outer, expects => by
      rw [Value.tokens, reach?_cons (expects .openArray rfl),
        reach?_append (reach?_tokens item _ _ (expects_firstItem outer))]
      exact reach?_itemTokens items item [] outer
  | .object [], place, outer, expects => reach?_cons (expects .openObject rfl) [.closeObject]
  | .object ((key, value) :: members), place, outer, expects => by
      have named : (Place.firstKey outer).step? (.string key) = some (.colon [] key outer) := rfl
      have parted : (Place.colon [] key outer).step? .colon =
          some (.value (.member [] key :: outer)) := rfl
      rw [Value.tokens, reach?_cons (expects .openObject rfl), reach?_cons named,
        reach?_cons parted, reach?_append (reach?_tokens value _ _ (expects_value _))]
      exact reach?_memberTokens members key value [] outer

theorem reach?_itemTokens : ∀ (items : List Value) (item : Value) (before : List Value)
    (outer : List Frame),
    (Place.behind item (.item before :: outer)).reach? (itemTokens items ++ [.closeArray]) =
      some (.behind (.array (before ++ item :: items)) outer)
  | [], item, before, outer => rfl
  | next :: items, item, before, outer => by
      have parted : (Place.behind item (.item before :: outer)).step? .comma =
          some (.value (.item (before ++ [item]) :: outer)) := rfl
      rw [itemTokens, List.cons_append, reach?_cons parted, List.append_assoc,
        reach?_append (reach?_tokens next _ _ (expects_value _)),
        reach?_itemTokens items next (before ++ [item]) outer, List.append_assoc]
      rfl

theorem reach?_memberTokens : ∀ (members : List (List Piece × Value)) (key : List Piece)
    (value : Value) (before : List (List Piece × Value)) (outer : List Frame),
    (Place.behind value (.member before key :: outer)).reach?
        (memberTokens members ++ [.closeObject]) =
      some (.behind (.object (before ++ (key, value) :: members)) outer)
  | [], key, value, before, outer => rfl
  | (name, next) :: members, key, value, before, outer => by
      have parted : (Place.behind value (.member before key :: outer)).step? .comma =
          some (.key (before ++ [(key, value)]) outer) := rfl
      have named : (Place.key (before ++ [(key, value)]) outer).step? (.string name) =
          some (.colon (before ++ [(key, value)]) name outer) := rfl
      have opened : (Place.colon (before ++ [(key, value)]) name outer).step? .colon =
          some (.value (.member (before ++ [(key, value)]) name :: outer)) := rfl
      rw [memberTokens, List.cons_append, List.cons_append, List.cons_append, reach?_cons parted,
        reach?_cons named, reach?_cons opened, List.append_assoc,
        reach?_append (reach?_tokens next _ _ (expects_value _)),
        reach?_memberTokens members name next (before ++ [(key, value)]) outer,
        List.append_assoc]
      rfl

end

theorem ofTokens?_tokens (value : Value) : ofTokens? value.tokens = some value := by
  have reached := reach?_tokens value (.value []) [] (expects_value [])
  rw [Place.reach?] at reached
  rw [ofTokens?, reached]
  rfl

theorem read?_write {value : Value} (wellFormed : value.WellFormed) (style : Style) :
    read? (write style value) = some value := by
  have tokens := tokens?_writeAt style 0 value [] wellFormed .nil
  have nothing : between.tokens? [] = some [] := rfl
  rw [List.append_nil, nothing, ahead_some, List.append_nil] at tokens
  rw [read?, write, Json.tokens?, tokens]
  exact ofTokens?_tokens value

/-! Control characters.  On one line there are none, so a record that is written ends where the line
ends. -/

def Printable (text : Text) : Prop :=
  ∀ c ∈ text, ' ' ≤ c

variable {first second : Text}

theorem Printable.nil : Printable [] := by
  simp [Printable]

theorem Printable.cons {c : Char} (printable : ' ' ≤ c) (others : Printable first) :
    Printable (c :: first) :=
  List.forall_mem_cons.mpr ⟨printable, others⟩

theorem Printable.append (front : Printable first) (back : Printable second) :
    Printable (first ++ second) :=
  List.forall_mem_append.mpr ⟨front, back⟩

theorem Printable.unbroken (printable : Printable first) : '\n' ∉ first ∧ '\r' ∉ first := by
  have not_mem {c : Char} (control : c < ' ') : c ∉ first :=
    fun member => Char.not_le.mpr control (printable c member)
  exact ⟨not_mem (by decide), not_mem (by decide)⟩

theorem le_of_isWordChar {c : Char} (word : isWordChar c = true) : ' ' ≤ c := by
  have controls : ∀ code < ' '.toNat, isWordChar (Char.ofNat code) = false := by decide
  refine Char.not_lt.mp fun control => ?_
  have plain := controls c.toNat control
  rw [Char.ofNat_toNat, word] at plain
  cases plain

theorem printable_of_isWordChar (inWord : ∀ c ∈ first, isWordChar c = true) : Printable first :=
  fun c member => le_of_isWordChar (inWord c member)

theorem printable_escapeUnit (unit : Nat) : Printable (escapeUnit unit) := by
  have digit (value : Nat) : ' ' ≤ Nat.digitChar (value % 16) := by
    have all : ∀ value < 16, ' ' ≤ Nat.digitChar value := by decide
    exact all _ (Nat.mod_lt value (by decide))
  exact .cons (by decide) <| .cons (by decide) <| .cons (digit _) <| .cons (digit _) <|
    .cons (digit _) <| .cons (digit _) .nil

theorem printable_escapeChar (c : Char) : Printable (escapeChar c) := by
  have escaped {c : Char} (printable : ' ' ≤ c) : Printable ['\\', c] :=
    .cons (by decide) (.cons printable .nil)
  unfold escapeChar
  split
  · exact escaped (by decide)
  · exact escaped (by decide)
  · exact escaped (by decide)
  · exact escaped (by decide)
  · exact escaped (by decide)
  · exact escaped (by decide)
  · exact escaped (by decide)
  · split
    · exact printable_escapeUnit c.toNat
    · next printable => exact .cons (Char.not_lt.mp printable) .nil

theorem printable_writeString (pieces : List Piece) : Printable (writeString pieces) := by
  refine .append (.cons (by decide) fun c member => ?_) (.cons (by decide) .nil)
  obtain ⟨piece, -, written⟩ := List.mem_flatMap.mp member
  cases piece with
  | char c => exact printable_escapeChar c _ written
  | half unit => exact printable_escapeUnit unit _ written

mutual

theorem printable_writeAt : ∀ (depth : Nat) (value : Value), value.WellFormed →
    Printable (writeAt .compact depth value)
  | _, .null, _ => printable_of_isWordChar (List.all_eq_true.mp rfl)
  | _, .bool true, _ => printable_of_isWordChar (List.all_eq_true.mp rfl)
  | _, .bool false, _ => printable_of_isWordChar (List.all_eq_true.mp rfl)
  | _, .number _, number => printable_of_isWordChar (isWordChar_of_isNumber number)
  | _, .string pieces, _ => printable_writeString pieces
  | _, .array [], _ => .cons (by decide) (.cons (by decide) .nil)
  | depth, .array (item :: items), wellFormed => by
      obtain ⟨first, others⟩ := wellFormed
      have opening := (printable_writeAt (depth + 1) item first).cons (c := '[') (by decide)
      have behind := printable_writeItems (depth + 1) items others
      simp only [writeAt, Style.lineBreak, List.append_nil]
      exact (opening.append behind).append (.cons (by decide) .nil)
  | _, .object [], _ => .cons (by decide) (.cons (by decide) .nil)
  | depth, .object ((key, value) :: members), wellFormed => by
      obtain ⟨-, first, others⟩ := wellFormed
      have opening := (printable_writeString key).cons (c := '{') (by decide)
      have named := opening.append (.cons (c := ':') (by decide) .nil)
      have member := named.append (printable_writeAt (depth + 1) value first)
      have behind := printable_writeMembers (depth + 1) members others
      simp only [writeAt, Style.lineBreak, Style.gap, List.append_nil]
      exact (member.append behind).append (.cons (by decide) .nil)

theorem printable_writeItems : ∀ (depth : Nat) (items : List Value), ItemsWellFormed items →
    Printable (writeItems .compact depth items)
  | _, [], _ => .nil
  | depth, item :: items, wellFormed => by
      obtain ⟨first, others⟩ := wellFormed
      have opening := (printable_writeAt depth item first).cons (c := ',') (by decide)
      exact opening.append (printable_writeItems depth items others)

theorem printable_writeMembers : ∀ (depth : Nat) (members : List (List Piece × Value)),
    MembersWellFormed members → Printable (writeMembers .compact depth members)
  | _, [], _ => .nil
  | depth, (key, value) :: members, wellFormed => by
      obtain ⟨-, first, others⟩ := wellFormed
      have opening := (printable_writeString key).cons (c := ',') (by decide)
      have named := opening.append (.cons (c := ':') (by decide) .nil)
      have member := named.append (printable_writeAt depth value first)
      simp only [writeMembers, Style.lineBreak, Style.gap]
      exact member.append (printable_writeMembers depth members others)

end

end Typeset.Json
