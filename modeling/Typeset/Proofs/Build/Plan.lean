import Typeset.Build.Plan
import Typeset.Proofs.Build.Engine
import Typeset.Proofs.Path.Components

/-!
How the parts of a plan belong together: the document, the directory that the engine is started in
and the name it is given there, and the PDF.
-/

namespace Typeset

namespace Plan

open Typeset.Path (Component components)

variable {workspace : Workspace} {settings : Settings} {current : Path} {plan : Plan}

theorem make_eq_ok_iff :
    make workspace settings current = .ok plan ↔
      ∃ name engine, Path.fileName? (documentFor settings current) = some name ∧
        Engine.choose workspace settings.engine? (documentFor settings current) = .ok engine ∧
        plan =
          { document := documentFor settings current
            pdf := Path.withExtension "pdf" (documentFor settings current)
            invocation :=
              { engine, args := settings.flags ++ [name],
                workingDir := Path.directory (documentFor settings current) } } := by
  cases named : Path.fileName? (documentFor settings current) with
  | none => simp [make, named]
  | some name =>
      cases chosen : Engine.choose workspace settings.engine? (documentFor settings current) with
      | error failure => simp [make, named, chosen, bind, Except.bind]
      | ok engine => simp [make, named, chosen, bind, Except.bind, eq_comm]

theorem exists_make_error_iff :
    (∃ failure, make workspace settings current = .error failure) ↔
      Path.fileName? (documentFor settings current) = none ∨
        ∃ failure, Engine.choose workspace settings.engine? (documentFor settings current) =
          .error failure := by
  cases named : Path.fileName? (documentFor settings current) with
  | none => simp [make, named]
  | some name =>
      cases chosen : Engine.choose workspace settings.engine? (documentFor settings current) with
      | error failure => simp [make, named, chosen, bind, Except.bind]
      | ok engine => simp [make, named, chosen, bind, Except.bind]

/-- The document for a file is the file, or the master that is set.  A master is seen from the
directory of the file, which is `.` for a bare name. -/
structure IsDocument (settings : Settings) (current document : Path) : Prop where
  edited : settings.master? = none → document = current
  directory : (components current).dropLast = [] ∧ Path.directory current = ['.'] ∨
    (components current).dropLast ≠ [] ∧
      components (Path.directory current) = (components current).dropLast
  absolute : ∀ master ∈ settings.master?, Path.isAbsolute master = true → document = master
  relative : ∀ master ∈ settings.master?, Path.isAbsolute master = false →
    document = Path.join (Path.directory current) master ∧
      components document =
        components (Path.directory current) ++ (Path.names master).map Component.ofName

theorem isDocument_documentFor (settings : Settings) (current : Path) :
    IsDocument settings current (documentFor settings current) := by
  constructor
  · intro unset
    simp only [documentFor, unset]
  · exact Path.components_directory current
  · rintro master isMaster rooted
    simp only [documentFor, Option.mem_def.mp isMaster]
    exact Path.join_of_isAbsolute rooted
  · rintro master isMaster relative
    simp only [documentFor, Option.mem_def.mp isMaster]
    exact ⟨trivial, Path.components_join relative (Path.directory_ne_nil current)⟩

structure Fits (plan : Plan) (settings : Settings) (name stem : Text) : Prop where
  named : (components plan.document).getLast? = some (.name name)
  isStem : Path.IsStem name stem
  args : plan.invocation.args = settings.flags ++ [name]
  inDirectory : components (Path.join plan.invocation.workingDir name) = components plan.document ∨
    components (Path.join plan.invocation.workingDir name) = .here :: components plan.document
  pdf : components plan.pdf =
    (components plan.document).dropLast ++
      [if stem = ['.'] ∧ name <:+ plan.document then .up else .name (stem ++ ".pdf")]

theorem exists_fits (made : make workspace settings current = .ok plan) :
    ∃ name stem, plan.Fits settings name stem := by
  obtain ⟨name, engine, named, -, rfl⟩ := make_eq_ok_iff.mp made
  refine ⟨name, (Path.splitExtension name).1, ?_⟩
  exact {
    named := Path.getLast?_components_eq_name_iff.mpr named
    isStem := Path.isStem_iff.mpr rfl
    args := rfl
    inDirectory := Path.components_join_directory named
    pdf := Path.components_withExtension named (by decide) (by decide) }

/-- A plan says what to do with its document: the engine is started where the document lies and is
given its name there, and the PDF is beside it under the same stem.  Only for a name whose stem is a
single dot, with nothing behind it, the PDF is taken to be the directory above. -/
theorem plan_fits_document (workspace : Workspace) (settings : Settings) (current : Path) :
    IsDocument settings current (documentFor settings current) ∧
    (∀ plan, make workspace settings current = .ok plan →
      plan.document = documentFor settings current ∧ ∃ name stem, plan.Fits settings name stem) ∧
    ((∃ failure, make workspace settings current = .error failure) ↔
      (components (documentFor settings current) ∈ [[], [.here], [.root]] ∨
        (components (documentFor settings current)).getLast? = some .up) ∨
      settings.engine? = none ∧
        ∃ fault, workspace.read (documentFor settings current) = .error fault) := by
  refine ⟨isDocument_documentFor settings current, fun plan made => ⟨?_, exists_fits made⟩, ?_⟩
  · obtain ⟨_, _, -, -, rfl⟩ := make_eq_ok_iff.mp made
    rfl
  · rw [exists_make_error_iff, Path.fileName?_eq_none_iff, Engine.exists_choose_error_iff]

/-- The stem of the master is a single dot, and a slash stands behind the name. -/
theorem plan_fits_relative_master :
    let settings : Settings := { engine? := some "lualatex", master? := some "../..tex/" }
    ∃ plan, make { home := [] } settings "ch/one.tex" = .ok plan ∧
      components plan.pdf = [.name "ch", .up, .name "..pdf"] ∧
      ∃ name stem, plan.Fits settings name stem :=
  ⟨_, rfl, by decide, ((plan_fits_document { home := [] } _ "ch/one.tex").2.1 _ rfl).2⟩

/-- Without the slash the PDF is taken to be the directory above, and not the file beside the
document. -/
theorem pdf_of_dotted_name_is_directory :
    ∃ plan, make { home := [] } { engine? := some "lualatex" } "..tex" = .ok plan ∧
      components plan.document = [.name "..tex"] ∧ Path.IsStem "..tex" "." ∧
      components plan.pdf = [.up] ∧ components plan.pdf ≠ [.name "..pdf"] :=
  ⟨_, rfl, by decide, Path.isStem_iff.mpr rfl, by decide, by decide⟩

end Plan

end Typeset
