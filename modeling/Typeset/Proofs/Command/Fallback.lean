import Typeset.Command.Replay
import Typeset.Proofs.Build.Plan
import Typeset.Proofs.Feedback.Refusal
import Typeset.Proofs.Path.Extension
import Typeset.Proofs.Path.Place

/-!
What a message is about while no file is open: the document, by default.  The directory that paths
are seen from comes from the same spelling, so a spelling that starts with a dot is resolved from its
own directory once more.
-/

namespace Typeset

/-- The options that fall back on a document, and the directory that paths are then seen from: those
of a replay without other orders, and those of a plan. -/
inductive FeedOptions.FallsBack : FeedOptions → Path → Path → Prop
  | replay (request : ReplayRequest) (log : Path) (named : Path.fileName? log ≠ none)
      (noFile : request.defaultFile? = none) (noDir : request.baseDir? = none) :
      FallsBack (request.feedOptions log) (Path.withExtension "tex" log) (Path.directory log)
  | build {workspace : Workspace} {settings : Settings} {current : Path} {plan : Plan}
      (made : Plan.make workspace settings current = .ok plan) :
      FallsBack (plan.feedOptions settings) plan.document (Path.directory plan.document)

theorem Plan.of_make {workspace : Workspace} {settings : Settings} {current : Path} {plan : Plan}
    (made : Plan.make workspace settings current = .ok plan) :
    Path.fileName? plan.document ≠ none ∧
      plan.invocation.workingDir = Path.directory plan.document := by
  obtain ⟨name, _, named, -, rfl⟩ := make_eq_ok_iff.mp made
  exact ⟨by simp [named], rfl⟩

namespace FeedOptions.FallsBack

variable {options : FeedOptions} {document base : Path}

theorem defaultFile? (fallsBack : FallsBack options document base) :
    options.defaultFile? = some document := by
  cases fallsBack with
  | replay request log named noFile noDir => simp [ReplayRequest.feedOptions, noFile]
  | build made => rfl

theorem baseDir? (fallsBack : FallsBack options document base) : options.baseDir? = some base := by
  cases fallsBack with
  | replay request log named noFile noDir => simp [ReplayRequest.feedOptions, noDir]
  | build made => exact congrArg some (Plan.of_make made).2

theorem base_ne_nil (fallsBack : FallsBack options document base) : base ≠ [] := by
  cases fallsBack with
  | replay request log => exact Path.directory_ne_nil log
  | build => exact Path.directory_ne_nil _

theorem within (fallsBack : FallsBack options document base) :
    ∃ name, Path.names document = Path.names base ++ [name] := by
  cases fallsBack with
  | replay request log named noFile noDir =>
      obtain ⟨name, isFile⟩ := Option.ne_none_iff_exists'.mp named
      have whole : '/' ∉ ("tex" : Text) := by decide
      rw [Path.names_directory]
      exact ⟨_, Path.names_withExtension isFile whole⟩
  | build made =>
      obtain ⟨name, isFile⟩ := Option.ne_none_iff_exists'.mp (Plan.of_make made).1
      obtain ⟨last, -⟩ := Path.fileName?_eq_some_iff.mp isFile
      rw [Path.names_directory]
      exact ⟨name, (List.dropLast_append_getLast? name last).symm⟩

end FeedOptions.FallsBack

/-- Whatever a feed with a document to fall back on has heard, a message that names no file is about
that document while no file is open.  The file that is told leads to the place of the document where
the spelling of the document does not start with a dot, and where the document has a name and its
directory is the one it is seen from, but nowhere else. -/
theorem message_falls_back_on_document {feed : Feed} {document base : Path}
    (fallsBack : feed.options.FallsBack document base) {line : Text} {kind : LineKind}
    {diagnostic : Diagnostic} (listens : feed.listensTo line kind = true)
    (read : Message.announced? line = some diagnostic) (own : diagnostic.file? = none)
    (closed : (feed.follow line).1.nesting.current.1 = none) :
    ∃ feedback file, (feed.step line kind).2 = .ok feedback ∧
      feedback.diagnostic? = some { diagnostic with file? := some file } ∧
      (Path.place file = Path.place document ↔
        document.head? ≠ some '.' ∨
          (Path.fileName? document ≠ none ∧ Path.place base = (false, []))) := by
  obtain ⟨name, within⟩ := fallsBack.within
  have current : ((feed.follow line).1.countLine.heard line).currentFile? = some document := by
    have options : (feed.follow line).1.options.defaultFile? = some document := by
      rw [Feed.options_follow, fallsBack.defaultFile?]
    exact (congrArg (fun found : Option Path => found.or _) closed).trans options
  have base : ((feed.follow line).1.countLine.heard line).settled.options.baseDir? = some base := by
    have same : ((feed.follow line).1.countLine.heard line).settled.options = feed.options :=
      Feed.options_follow feed line
    rw [same, fallsBack.baseDir?]
  rw [Feed.step_of_listensTo listens, Feed.answer_of_announced read, Feed.assign_current own current]
  refine ⟨_, _, rfl, rfl, ?_⟩
  rw [base]
  exact Path.place_resolveFrom_iff fallsBack.base_ne_nil within

/-- A log in the working directory is of a document there. -/
theorem document_is_found_below_dot :
    let request : ReplayRequest := {}
    let feed := Feed.start (request.feedOptions "./main.log")
    ∃ feedback file, (feed.step "LaTeX Warning: Empty." .output).2 = .ok feedback ∧
      feedback.diagnostic?.map Diagnostic.file? = some (some file) ∧
      Path.place file = Path.place "./main.tex" := by
  intro request feed
  have fallsBack : feed.options.FallsBack (Path.withExtension "tex" "./main.log")
      (Path.directory "./main.log") :=
    .replay request "./main.log" (by decide) rfl rfl
  have listens : feed.listensTo "LaTeX Warning: Empty." .output = true := by decide
  obtain ⟨feedback, file, stepped, told, found⟩ :=
    message_falls_back_on_document fallsBack listens rfl rfl rfl
  refine ⟨feedback, file, stepped, by rw [told]; rfl, ?_⟩
  exact found.mpr (by decide)

/-- A log in a directory below is resolved from that directory twice. -/
theorem document_is_missed_below_directory :
    let request : ReplayRequest := {}
    let result := request.replay "./logs/main.log" (Text.encode "This is pdfTeX\nLaTeX Warning: oops\n")
    result.diagnostics.map Diagnostic.file? = [some ("logs/logs/main.tex" : Text)] ∧
      Path.place "logs/logs/main.tex" ≠ Path.place (Path.withExtension "tex" "./logs/main.log") := by
  decide +kernel

end Typeset
