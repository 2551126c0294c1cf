import Typeset.Feedback.Record
import Typeset.Proofs.Json.Record
import Typeset.Proofs.Json.RoundTrip

namespace Typeset

namespace Diagnostic

variable (diagnostic : Diagnostic)

def members : List (Text × Option Json.Value) :=
  [("file", diagnostic.file?.map .ofText),
    ("line", diagnostic.line?.map fun line => .ofNat line.toNat),
    ("message", some (.ofText diagnostic.message)),
    ("severity", some (.ofText diagnostic.severity.name)),
    ("kind", some (.ofText diagnostic.kind.name))]

theorem map_fst_members : diagnostic.members.map Prod.fst = fieldNames := rfl

theorem nodup_members : (diagnostic.members.map Prod.fst).Nodup := by
  rw [map_fst_members]
  decide

theorem fields?_toJson :
    Json.fields? fieldNames diagnostic.toJson = some (Json.present diagnostic.members) :=
  Json.fields?_sparseRecord (fun _ among => diagnostic.map_fst_members ▸ among)
    diagnostic.nodup_members

theorem field?_members {α : Type} (name : Text) (default? : Option α)
    (read? : Json.Value → Option α) :
    Json.field? (Json.present diagnostic.members) name default? read? =
      (diagnostic.members.lookup name).join.elim default? read? :=
  Json.field?_present diagnostic.nodup_members name default? read?

theorem ofJson?_toJson : ofJson? diagnostic.toJson = some diagnostic := by
  have file : Json.field? (Json.present diagnostic.members) "file" (some none)
      (Json.Value.optional? Json.Value.asText?) = some diagnostic.file? := by
    have found : (diagnostic.members.lookup ("file" : Text)).join =
        diagnostic.file?.map .ofText := rfl
    rw [field?_members, found]
    cases diagnostic.file? with
    | none => rfl
    | some file =>
        exact Json.Value.optional?_of_ne_null Json.Value.noConfusion
          (Json.Value.asText?_ofText file)
  have line : Json.field? (Json.present diagnostic.members) "line" (some none)
      (Json.Value.optional? (Json.Value.asNat? UInt32.size)) =
        some (diagnostic.line?.map UInt32.toNat) := by
    have found : (diagnostic.members.lookup ("line" : Text)).join =
        diagnostic.line?.map fun line => .ofNat line.toNat := rfl
    rw [field?_members, found]
    cases diagnostic.line? with
    | none => rfl
    | some line =>
        exact Json.Value.optional?_of_ne_null Json.Value.noConfusion
          (Json.Value.asNat?_ofNat line.toNat_lt)
  have message : Json.field? (Json.present diagnostic.members) "message" none
      Json.Value.asText? = some diagnostic.message := by
    rw [field?_members]
    exact Json.Value.asText?_ofText diagnostic.message
  have severity : Json.field? (Json.present diagnostic.members) "severity" none
      (Json.Value.oneOf? Severity.all Severity.name) = some diagnostic.severity := by
    rw [field?_members]
    exact Json.Value.oneOf?_ofText (by decide) (Severity.mem_all _)
  have kind : Json.field? (Json.present diagnostic.members) "kind" none
      (Json.Value.oneOf? DiagnosticKind.all DiagnosticKind.name) = some diagnostic.kind := by
    rw [field?_members]
    exact Json.Value.oneOf?_ofText (by decide) (DiagnosticKind.mem_all _)
  have lines : (diagnostic.line?.map UInt32.toNat).map UInt32.ofNat = diagnostic.line? := by
    cases diagnostic.line? <;> simp
  unfold ofJson?
  simp only [fields?_toJson, Option.bind_eq_bind, Option.bind_some, file, line, message, severity,
    kind, lines]

theorem wellFormed_toJson : diagnostic.toJson.WellFormed := by
  change (Json.Value.sparseRecord diagnostic.members).WellFormed
  refine Json.wellFormed_sparseRecord fun member among value found => ?_
  simp only [members, List.mem_cons, List.not_mem_nil, or_false] at among
  rcases among with rfl | rfl | rfl | rfl | rfl
  · obtain ⟨file, -, rfl⟩ := Option.map_eq_some_iff.mp found
    exact Json.wellFormed_ofText file
  · obtain ⟨line, -, rfl⟩ := Option.map_eq_some_iff.mp found
    exact Json.wellFormed_ofNat line.toNat
  · cases found
    exact Json.wellFormed_ofText diagnostic.message
  · cases found
    exact Json.wellFormed_ofText diagnostic.severity.name
  · cases found
    exact Json.wellFormed_ofText diagnostic.kind.name

theorem read?_write : read? diagnostic.write = some diagnostic := by
  rw [read?, write, Json.read?_write diagnostic.wellFormed_toJson, Option.bind_some,
    ofJson?_toJson]

theorem unbroken_write : '\n' ∉ diagnostic.write ∧ '\r' ∉ diagnostic.write :=
  (Json.printable_writeAt 0 diagnostic.toJson diagnostic.wellFormed_toJson).unbroken

theorem write_injective : Function.Injective write := by
  intro first second same
  have read := first.read?_write
  rw [same, second.read?_write] at read
  exact (Option.some.inj read).symm

def canonical? (text : Text) : Option Text :=
  (read? text).map write

theorem canonical?_eq_some_iff {text : Text} {diagnostic : Diagnostic} :
    canonical? text = some diagnostic.write ↔ read? text = some diagnostic := by
  rw [canonical?, Option.map_eq_some_iff]
  constructor
  · rintro ⟨other, read, same⟩
    rw [read, write_injective same]
  · intro read
    exact ⟨diagnostic, read, rfl⟩

theorem unbroken_records {diagnostics : List Diagnostic} :
    ∀ record ∈ diagnostics.map write, '\n' ∉ record ∧ '\r' ∉ record := by
  intro record member
  obtain ⟨diagnostic, -, rfl⟩ := List.mem_map.mp member
  exact diagnostic.unbroken_write

theorem map_read?_write (diagnostics : List Diagnostic) :
    (diagnostics.map write).map read? = diagnostics.map some := by
  rw [List.map_map]
  exact List.map_congr_left fun diagnostic _ => diagnostic.read?_write

end Diagnostic

namespace Summary

theorem wellFormed_toJson (summary : Summary) : summary.toJson.WellFormed := by
  refine Json.wellFormed_record fun member among => ?_
  simp only [List.mem_cons, List.not_mem_nil, or_false] at among
  rcases among with rfl | rfl | rfl | rfl
  · exact Json.wellFormed_ofNat _
  · exact Json.wellFormed_ofNat _
  · exact Json.wellFormed_ofNat _
  · exact Json.wellFormed_ofText _

theorem read?_write (summary : Summary) : Json.read? summary.write = some summary.toJson :=
  Json.read?_write summary.wellFormed_toJson .compact

theorem unbroken_write (summary : Summary) : '\n' ∉ summary.write ∧ '\r' ∉ summary.write :=
  (Json.printable_writeAt 0 summary.toJson summary.wellFormed_toJson).unbroken

theorem not_diagnostic (summary : Summary) : Diagnostic.read? summary.write = none := by
  rw [Diagnostic.read?, summary.read?_write, Option.bind_some]
  rfl

end Summary

end Typeset
