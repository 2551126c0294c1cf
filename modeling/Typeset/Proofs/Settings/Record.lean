import Typeset.Proofs.Json.Record
import Typeset.Proofs.Keyed
import Typeset.Proofs.Text.Encoding
import Typeset.Proofs.Workspace
import Typeset.Settings.Layers

/-!
Settings that are saved are loaded again.  The fields of their record may stand in any order and
among others, and those that are left out have their defaults.
-/

namespace Typeset

namespace Settings

def fields (settings : Settings) : List (Text × Json.Value) :=
  [("engine", .ofText? settings.engine?),
    ("flags", .array (settings.flags.map .ofText)),
    ("warn_level", .ofNat settings.warnLevel.toNat),
    ("master", .ofText? settings.master?),
    ("debug", .bool settings.debug),
    ("tracker", .ofText settings.rule.name),
    ("policy", .ofText settings.policy.name),
    ("link_template", .ofText? settings.linkTemplate?)]

def reset (settings : Settings) (names : List Text) : Settings :=
  let default : Settings := {}
  let isReset (name : Text) := names.contains name
  { engine? := if isReset "engine" then default.engine? else settings.engine?
    flags := if isReset "flags" then default.flags else settings.flags
    warnLevel := if isReset "warn_level" then default.warnLevel else settings.warnLevel
    master? := if isReset "master" then default.master? else settings.master?
    debug := if isReset "debug" then default.debug else settings.debug
    rule := if isReset "tracker" then default.rule else settings.rule
    policy := if isReset "policy" then default.policy else settings.policy
    linkTemplate? :=
      if isReset "link_template" then default.linkTemplate? else settings.linkTemplate? }

variable (settings : Settings)

theorem toJson_eq : settings.toJson = .record settings.fields := rfl

theorem map_fst_fields : settings.fields.map Prod.fst = fieldNames := rfl

theorem nodup_fields : (settings.fields.map Prod.fst).Nodup := by
  rw [map_fst_fields]
  decide

theorem wellFormed_toJson : settings.toJson.WellFormed := by
  rw [toJson_eq]
  refine Json.wellFormed_record fun field among => ?_
  simp only [fields, List.mem_cons, List.not_mem_nil, or_false] at among
  rcases among with rfl | rfl | rfl | rfl | rfl | rfl | rfl | rfl
  · exact Json.wellFormed_ofText? _
  · exact Json.wellFormed_map_ofText _
  · exact Json.wellFormed_ofNat _
  · exact Json.wellFormed_ofText? _
  · exact trivial
  · exact Json.wellFormed_ofText _
  · exact Json.wellFormed_ofText _
  · exact Json.wellFormed_ofText? _

theorem json_read?_write : Json.read? settings.write = some (.record settings.fields) := by
  rw [write, Json.read?_write settings.wellFormed_toJson, toJson_eq]

variable {settings} {removed : List Text} {others named : List (Text × Json.Value)}
  {members : List (List Json.Piece × Json.Value)}

theorem exists_fields? (unknown : ∀ other ∈ others, other.1 ∉ fieldNames)
    (same : named.Perm ((settings.fields.filter fun field => field.1 ∉ removed) ++ others))
    (spelled : Json.named? members = some named) :
    ∃ fields, Json.fields? fieldNames (.object members) = some fields ∧
      ∀ name, fields.lookup name =
        if name ∈ removed then none else settings.fields.lookup name := by
  let kept := settings.fields.filter fun field => field.1 ∉ removed
  have within : kept.Sublist settings.fields := List.filter_sublist
  have distinct : (kept.map Prod.fst).Nodup := settings.nodup_fields.sublist (within.map Prod.fst)
  have knows (field : Text × Json.Value) (among : field ∈ kept) : field.1 ∈ fieldNames := by
    rw [← settings.map_fst_fields]
    exact List.mem_map_of_mem (within.subset among)
  obtain ⟨fields, read, sorted⟩ := Json.fields?_of_perm spelled same knows distinct unknown
  have fieldsDistinct := (sorted.map Prod.fst).nodup_iff.mpr distinct
  refine ⟨fields, read, fun name => ?_⟩
  calc
    fields.lookup name = kept.lookup name := Keyed.lookup_perm fieldsDistinct sorted name
    _ = if decide (name ∉ removed) then settings.fields.lookup name else none :=
      Keyed.lookup_filter (fun name => decide (name ∉ removed)) settings.fields name
    _ = if name ∈ removed then none else settings.fields.lookup name := by simp

theorem ofJson?_object (unknown : ∀ other ∈ others, other.1 ∉ fieldNames)
    (same : named.Perm ((settings.fields.filter fun field => field.1 ∉ removed) ++ others))
    (spelled : Json.named? members = some named) :
    ofJson? (.object members) = some (settings.reset removed) := by
  obtain ⟨fields, read, found⟩ := exists_fields? unknown same spelled
  have level : UInt8.ofNat (if ("warn_level" : Text) ∈ removed then UInt8.toNat 0
      else settings.warnLevel.toNat) =
        if ("warn_level" : Text) ∈ removed then 0 else settings.warnLevel := by
    split
    · rfl
    · exact UInt8.ofNat_toNat
  refine Option.bind_eq_some_iff.mpr ⟨fields, read, ?_⟩
  refine Option.bind_eq_some_iff.mpr
    ⟨_, Json.field?_of_lookup (found "engine") (Json.Value.optional?_ofText? _), ?_⟩
  refine Option.bind_eq_some_iff.mpr
    ⟨_, Json.field?_of_lookup (found "flags") (Json.Value.asTexts?_map_ofText _), ?_⟩
  refine Option.bind_eq_some_iff.mpr
    ⟨_, Json.field?_of_lookup (found "warn_level")
      (Json.Value.asNat?_ofNat settings.warnLevel.toNat_lt), ?_⟩
  refine Option.bind_eq_some_iff.mpr
    ⟨_, Json.field?_of_lookup (found "master") (Json.Value.optional?_ofText? _), ?_⟩
  refine Option.bind_eq_some_iff.mpr ⟨_, Json.field?_of_lookup (found "debug") rfl, ?_⟩
  refine Option.bind_eq_some_iff.mpr
    ⟨_, Json.field?_of_lookup (found "tracker")
      (Json.Value.oneOf?_ofText (by decide) (NestingRule.mem_all _)), ?_⟩
  refine Option.bind_eq_some_iff.mpr
    ⟨_, Json.field?_of_lookup (found "policy")
      (Json.Value.oneOf?_ofText (by decide) (FaultPolicy.mem_all _)), ?_⟩
  refine Option.bind_eq_some_iff.mpr
    ⟨_, Json.field?_of_lookup (found "link_template") (Json.Value.optional?_ofText? _), ?_⟩
  rw [level]
  simp only [reset, List.contains_iff_mem]

theorem ofJson?_toJson (settings : Settings) : ofJson? settings.toJson = some settings := by
  have unknown : ∀ other ∈ ([] : List (Text × Json.Value)), other.1 ∉ fieldNames := nofun
  have all : settings.fields.filter (fun field => field.1 ∉ ([] : List Text)) = settings.fields :=
    List.filter_eq_self.mpr fun field _ => decide_eq_true List.not_mem_nil
  have same : settings.fields.Perm
      ((settings.fields.filter fun field => field.1 ∉ ([] : List Text)) ++ []) := by
    rw [all, List.append_nil]
  exact ofJson?_object unknown same (Json.named?_record settings.fields)

variable {workspace next : Workspace} {path : Path} {text : Text} {failure : Failure}

theorem load_of_read (contained : workspace.readText path = .ok text)
    (read : (Json.read? text).bind ofJson? = some settings) :
    load workspace path = .ok settings := by
  rw [load, contained]
  dsimp only
  rw [read?, read]

theorem load_save (saved : save workspace settings path = .ok next) :
    next.readText path = .ok settings.write ∧ load next path = .ok settings := by
  rw [save] at saved
  split at saved
  · next written =>
      cases saved
      have contained := Workspace.readText_write written
      refine ⟨contained, load_of_read contained ?_⟩
      rw [write, Json.read?_write settings.wellFormed_toJson, Option.bind_some, ofJson?_toJson]
  · cases saved

theorem of_save_error (refused : save workspace settings path = .error failure) :
    ∃ fault, failure = .unwritable fault ∧
      ∀ content, workspace.write path content = .error fault := by
  rw [save] at refused
  split at refused
  · cases refused
  · next fault unwritten =>
      cases refused
      exact ⟨fault, rfl, fun content => Workspace.write_refused unwritten content⟩

end Settings

/-- Settings that are saved are loaded from the file, and saving fails only where no file can be
written.  The file holds a record of their fields.  With fields left out, in any order and with
fields of other names among them, it is loaded as well, and the fields that are left out have their
defaults. -/
theorem saved_settings_are_loaded (settings : Settings) :
    (∀ (workspace : Workspace) (path : Path),
      (∀ next, Settings.save workspace settings path = .ok next →
        next.readText path = .ok settings.write ∧ Settings.load next path = .ok settings) ∧
      ∀ failure, Settings.save workspace settings path = .error failure →
        ∃ fault, failure = .unwritable fault ∧
          ∀ content, workspace.write path content = .error fault) ∧
      Json.read? settings.write = some (.record settings.fields) ∧
      ∀ (removed : List Text) (others named : List (Text × Json.Value))
        (members : List (List Json.Piece × Json.Value)) (text : Text),
        (∀ other ∈ others, other.1 ∉ Settings.fieldNames) →
        named.Perm ((settings.fields.filter fun field => field.1 ∉ removed) ++ others) →
        Json.named? members = some named → Json.read? text = some (.object members) →
          ∀ (workspace : Workspace) (path : Path), workspace.readText path = .ok text →
            Settings.load workspace path = .ok (settings.reset removed) := by
  refine ⟨fun workspace path => ⟨fun next saved => ?_, ?_⟩, settings.json_read?_write, ?_⟩
  · exact Settings.load_save saved
  · exact fun failure refused => Settings.of_save_error refused
  · intro removed others named members text unknown same spelled read workspace path contained
    refine Settings.load_of_read contained ?_
    rw [read, Option.bind_some, Settings.ofJson?_object unknown same spelled]

/-- The other field is named by a character beyond the basic plane, written as two escapes. -/
theorem reordered_settings_are_loaded :
    let settings : Settings := {
      engine? := some "lua\"tex", flags := ["\\", "a\n"], warnLevel := 255, master? := some "𝄞.tex"
      debug := true, rule := .strict, policy := .strict, linkTemplate? := some [] }
    let text : Text := "\x7b\"\\ud834\\udd1e\": [0], \"debug\": true, \"master\": \"𝄞.tex\"\x7d"
    let workspace : Workspace := {
      home := [], entries := [(["texfeed.json"], .file (Text.encode text))] }
    (∃ next, Settings.save workspace settings "texfeed.json" = .ok next ∧
      Settings.load next "texfeed.json" = .ok settings) ∧
      Settings.load workspace "texfeed.json" = .ok { master? := some "𝄞.tex", debug := true } := by
  intro settings text workspace
  obtain ⟨saved, -, loaded⟩ := saved_settings_are_loaded settings
  refine ⟨⟨_, rfl, ((saved workspace "texfeed.json").1 _ rfl).2⟩, ?_⟩
  let removed : List Text :=
    ["engine", "flags", "warn_level", "tracker", "policy", "link_template"]
  let other : Text × Json.Value := ("𝄞", .array [.number "0"])
  let debug : Text × Json.Value := ("debug", .bool true)
  let master : Text × Json.Value := ("master", .ofText "𝄞.tex")
  have unknown : ∀ field ∈ [other], field.1 ∉ Settings.fieldNames := by
    rw [List.forall_mem_singleton]
    decide
  have same : [other, debug, master].Perm
      ((settings.fields.filter fun field => field.1 ∉ removed) ++ [other]) :=
    List.reverse_perm [master, debug, other]
  have read : Json.read? text = some (.object
      [([.half 0xd834, .half 0xdd1e], other.2), (Json.piecesOf debug.1, debug.2),
        (Json.piecesOf master.1, master.2)]) := rfl
  have contained : workspace.readText "texfeed.json" = .ok text := by decide +kernel
  exact loaded removed [other] _ _ text unknown same rfl read workspace "texfeed.json" contained

end Typeset
