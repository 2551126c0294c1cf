import Typeset.Json.Record
import Typeset.Proofs.Json.RoundTrip
import Typeset.Proofs.Keyed

namespace Typeset.Json

namespace Value

theorem asText?_ofText (text : Text) : asText? (.ofText text) = some text :=
  textOf?_piecesOf text

theorem asNat?_ofNat {bound number : Nat} (below : number < bound) :
    asNat? bound (.ofNat number) = some number := by
  rw [ofNat, asNat?, Text.natural?_ofNat, Option.bind_some, if_pos below]

theorem optional?_of_ne_null {α : Type} {read? : Value → Option α} {value : Value} {item : α}
    (filled : value ≠ .null) (read : read? value = some item) :
    optional? read? value = some (some item) := by
  cases value with
  | null => exact absurd rfl filled
  | _ => exact congrArg (Option.map some) read

theorem optional?_ofText? (text? : Option Text) :
    optional? asText? (.ofText? text?) = some text? := by
  cases text? with
  | none => rfl
  | some text => exact optional?_of_ne_null Value.noConfusion (asText?_ofText text)

theorem asTexts?_map_ofText (texts : List Text) :
    asTexts? (.array (texts.map .ofText)) = some texts := by
  rw [asTexts?]
  induction texts with
  | nil => rfl
  | cons text texts ih =>
      rw [List.map_cons, List.mapM_cons, asText?_ofText, ih]
      rfl

theorem oneOf?_ofText {α : Type} {all : List α} {name : α → Text} {item : α}
    (distinct : ∀ first ∈ all, ∀ second ∈ all, name first = name second → first = second)
    (member : item ∈ all) :
    oneOf? all name (.ofText (name item)) = some item := by
  rw [ofText, oneOf?, textOf?_piecesOf, oneOf?.find, Option.bind_some]
  cases found : all.find? fun other => name other = name item with
  | none =>
      have missing := List.find?_eq_none.mp found item member
      simp at missing
  | some other =>
      have named : name other = name item := by simpa using List.find?_some found
      rw [distinct other (List.mem_of_find?_eq_some found) item member named]

/-- The value of a field: in an object the member whose key spells its name, in an array the item
at its place. -/
def fieldAt? (place : Nat) (name : Text) : Value → Option Value
  | object members => (members.find? fun member => textOf? member.1 = some name).map Prod.snd
  | array items => items[place]?
  | _ => none

end Value

def present (members : List (Text × Option Value)) : List (Text × Value) :=
  members.filterMap fun (name, value?) => value?.map fun value => (name, value)

def named? (members : List (List Piece × Value)) : Option (List (Text × Value)) :=
  members.mapM fun (key, value) => (textOf? key).map fun name => (name, value)

theorem named?_record (members : List (Text × Value)) :
    named? (members.map fun member => (piecesOf member.1, member.2)) = some members := by
  rw [named?]
  induction members with
  | nil => rfl
  | cons member members ih =>
      simp only [List.map_cons, List.mapM_cons, ih, textOf?_piecesOf]
      rfl

theorem lookup_named {members : List (List Piece × Value)} {named : List (Text × Value)}
    (spelled : named? members = some named) (name : Text) :
    named.lookup name =
      (members.find? fun member => textOf? member.1 = some name).map Prod.snd := by
  induction members generalizing named with
  | nil =>
      cases spelled
      rfl
  | cons member members ih =>
      obtain ⟨key, value⟩ := member
      simp only [named?, List.mapM_cons, Option.bind_eq_bind, Option.bind_eq_some_iff,
        Option.map_eq_some_iff] at spelled
      obtain ⟨_, ⟨spelling, spells, rfl⟩, others, rest, same⟩ := spelled
      cases same
      by_cases first : name = spelling
      · simp [spells, first]
      · have differs : (name == spelling) = false := beq_false_of_ne first
        rw [List.lookup_cons, differs, ih rest]
        simp [spells, Ne.symm first]

theorem lookup_of_fields? {names : List Text} {value : Value} {fields : List (Text × Value)}
    {place : Nat} {name : Text} (read : fields? names value = some fields)
    (distinct : names.Nodup) (stands : names[place]? = some name) :
    fields.lookup name = value.fieldAt? place name := by
  cases value with
  | array items =>
      obtain ⟨-, same⟩ := Option.ite_none_right_eq_some.mp read
      cases same
      exact Keyed.lookup_zip distinct stands
  | object members =>
      obtain ⟨named, spelled, known⟩ := Option.bind_eq_some_iff.mp read
      obtain ⟨-, same⟩ := Option.ite_none_right_eq_some.mp known
      cases same
      rw [Keyed.lookup_filter (fun name => decide (name ∈ names)),
        if_pos (decide_eq_true (List.mem_of_getElem? stands)), lookup_named spelled,
        Value.fieldAt?]
  | null | bool | number | string => cases read

theorem fields?_object {names : List Text} {members : List (List Piece × Value)}
    {named : List (Text × Value)} (spelled : named? members = some named)
    (distinct : ((named.filter fun field => field.1 ∈ names).map Prod.fst).Nodup) :
    fields? names (.object members) = some (named.filter fun field => field.1 ∈ names) :=
  Option.bind_eq_some_iff.mpr ⟨named, spelled, if_pos distinct⟩

theorem fields?_record {names : List Text} {members : List (Text × Value)}
    (known : ∀ name ∈ members.map Prod.fst, name ∈ names)
    (distinct : (members.map Prod.fst).Nodup) :
    fields? names (.record members) = some members := by
  have all : members.filter (fun member => member.1 ∈ names) = members := by
    refine List.filter_eq_self.mpr fun member among => ?_
    exact decide_eq_true (known member.1 (List.mem_map_of_mem among))
  have read := fields?_object (named?_record members) (all.symm ▸ distinct)
  exact read.trans (congrArg some all)

/-- The order of the members makes no difference, nor do members with other names. -/
theorem fields?_of_perm {names : List Text} {members : List (List Piece × Value)}
    {known others named : List (Text × Value)} (spelled : named? members = some named)
    (same : named.Perm (known ++ others)) (knows : ∀ field ∈ known, field.1 ∈ names)
    (distinct : (known.map Prod.fst).Nodup) (unknown : ∀ other ∈ others, other.1 ∉ names) :
    ∃ fields, fields? names (.object members) = some fields ∧ fields.Perm known := by
  have all : known.filter (fun field => field.1 ∈ names) = known :=
    List.filter_eq_self.mpr fun field among => decide_eq_true (knows field among)
  have none : others.filter (fun field => field.1 ∈ names) = [] :=
    List.filter_eq_nil_iff.mpr fun other among => by simpa using unknown other among
  have sorted := same.filter fun field => decide (field.1 ∈ names)
  rw [List.filter_append, all, none, List.append_nil] at sorted
  refine ⟨_, fields?_object spelled ?_, sorted⟩
  exact (sorted.map Prod.fst).nodup_iff.mpr distinct

theorem mem_map_present {members : List (Text × Option Value)} {name : Text}
    (among : name ∈ (present members).map Prod.fst) : name ∈ members.map Prod.fst := by
  obtain ⟨⟨_, value⟩, found, rfl⟩ := List.mem_map.mp among
  obtain ⟨⟨other, value?⟩, member, same⟩ := List.mem_filterMap.mp found
  obtain ⟨_, -, same⟩ := Option.map_eq_some_iff.mp same
  cases same
  exact List.mem_map_of_mem member

theorem present_cons (name : Text) (value? : Option Value) (members : List (Text × Option Value)) :
    present ((name, value?) :: members) =
      (value?.map fun value => (name, value)).toList ++ present members := by
  rw [present, List.filterMap_cons]
  cases value? <;> rfl

theorem nodup_present {members : List (Text × Option Value)}
    (distinct : (members.map Prod.fst).Nodup) : ((present members).map Prod.fst).Nodup := by
  induction members with
  | nil => exact List.nodup_nil
  | cons member members ih =>
      obtain ⟨name, value?⟩ := member
      obtain ⟨fresh, others⟩ := List.nodup_cons.mp distinct
      rw [present_cons]
      cases value? with
      | none => exact ih others
      | some value =>
          exact List.nodup_cons.mpr ⟨fun among => fresh (mem_map_present among), ih others⟩

theorem fields?_sparseRecord {names : List Text} {members : List (Text × Option Value)}
    (known : ∀ name ∈ members.map Prod.fst, name ∈ names)
    (distinct : (members.map Prod.fst).Nodup) :
    fields? names (.sparseRecord members) = some (present members) :=
  fields?_record (fun name among => known name (mem_map_present among)) (nodup_present distinct)

theorem lookup_present {members : List (Text × Option Value)}
    (distinct : (members.map Prod.fst).Nodup) (name : Text) :
    (present members).lookup name = (members.lookup name).join := by
  induction members with
  | nil => rfl
  | cons member members ih =>
      obtain ⟨other, value?⟩ := member
      obtain ⟨fresh, others⟩ := List.nodup_cons.mp distinct
      rw [present_cons]
      by_cases same : name = other
      · subst same
        cases value? with
        | some value => simp
        | none =>
            have absent : members.lookup name = none := Keyed.lookup_eq_none_iff.mpr fresh
            simpa [absent] using ih others
      · have skipped : (name == other) = false := by simpa using same
        have rest := ih others
        cases value? with
        | some value => simpa [List.lookup_cons, skipped] using rest
        | none => simpa [List.lookup_cons, skipped] using rest

theorem field?_present {α : Type} {members : List (Text × Option Value)}
    (distinct : (members.map Prod.fst).Nodup) (name : Text) (default? : Option α)
    (read? : Value → Option α) :
    field? (present members) name default? read? =
      (members.lookup name).join.elim default? read? := by
  rw [field?, lookup_present distinct]
  cases (members.lookup name).join <;> rfl

theorem field?_of_lookup {α : Type} {fields : List (Text × Value)} {name : Text}
    {left : Prop} [Decidable left] {value : Value} {default item : α}
    {read? : Value → Option α}
    (found : fields.lookup name = if left then none else some value)
    (read : read? value = some item) :
    field? fields name (some default) read? = some (if left then default else item) := by
  rw [field?, found]
  by_cases absent : left
  · rw [if_pos absent, if_pos absent]
  · rw [if_neg absent, if_neg absent]
    exact read

theorem of_field? {α : Type} {fields : List (Text × Value)} {name : Text}
    {default item : α} {read? : Value → Option α}
    (read : field? fields name (some default) read? = some item) :
    item = ((fields.lookup name).bind read?).getD default := by
  rw [field?] at read
  cases found : fields.lookup name with
  | none =>
      rw [found] at read
      exact (Option.some.inj read).symm
  | some value =>
      rw [found] at read
      simp [read]

theorem of_optionalField? {fields : List (Text × Value)} {name : Text}
    {item? : Option Text}
    (read : field? fields name (some none) (Value.optional? Value.asText?) =
      some item?) :
    item? = (fields.lookup name).bind Value.asText? := by
  rw [of_field? read]
  cases fields.lookup name with
  | none => rfl
  | some value =>
      cases value with
      | string pieces =>
          change ((textOf? pieces).map some).getD none = textOf? pieces
          cases textOf? pieces <;> rfl
      | _ => rfl

theorem wellFormed_piecesOf {text : Text} : ∀ piece ∈ piecesOf text, piece.WellFormed := by
  intro piece member
  obtain ⟨c, -, rfl⟩ := List.mem_map.mp member
  exact trivial

theorem wellFormed_ofText (text : Text) : (Value.ofText text).WellFormed :=
  wellFormed_piecesOf

theorem wellFormed_ofNat (number : Nat) : (Value.ofNat number).WellFormed :=
  Lexing.isNumber_ofNat number

theorem wellFormed_ofText? (text? : Option Text) : (Value.ofText? text?).WellFormed := by
  cases text? with
  | none => exact trivial
  | some text => exact wellFormed_ofText text

theorem wellFormed_map_ofText (texts : List Text) :
    (Value.array (texts.map .ofText)).WellFormed := by
  rw [Value.WellFormed]
  induction texts with
  | nil => exact trivial
  | cons text texts ih => exact ⟨wellFormed_ofText text, ih⟩

theorem wellFormed_record {members : List (Text × Value)}
    (values : ∀ member ∈ members, member.2.WellFormed) : (Value.record members).WellFormed := by
  rw [Value.record, Value.WellFormed]
  induction members with
  | nil => exact trivial
  | cons member members ih =>
      obtain ⟨first, others⟩ := List.forall_mem_cons.mp values
      exact ⟨wellFormed_piecesOf, first, ih others⟩

theorem wellFormed_sparseRecord {members : List (Text × Option Value)}
    (values : ∀ member ∈ members, ∀ value ∈ member.2, value.WellFormed) :
    (Value.sparseRecord members).WellFormed := by
  refine wellFormed_record fun named among => ?_
  obtain ⟨member, known, same⟩ := List.mem_filterMap.mp among
  obtain ⟨value, found, rfl⟩ := Option.map_eq_some_iff.mp same
  exact values member known value found

end Typeset.Json
