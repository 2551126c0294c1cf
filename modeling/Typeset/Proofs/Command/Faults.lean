import Typeset.Command.Run
import Typeset.Proofs.Command.Replay
import Typeset.Proofs.Feedback.Refusal

/-!
The faults that builds and replays meet.  Both have a default file for their messages, and take
lines without line feeds; so nothing but a stray closing parenthesis is ever refused, and that only
under the strict policy.
-/

namespace Typeset

open Feed (refusal?)

theorem texts_introduced (lines : List OutputLine) :
    (introduced lines).map Prod.fst = lines.map OutputLine.text := by
  induction lines with
  | nil => rfl
  | cons line lines ih =>
      rw [introduced]
      split
      · simp
      · simp [ih]

theorem Execution.lineFeed_not_mem {execution : Execution} {line : OutputLine}
    (printed : line ∈ execution.lines) : '\n' ∉ line.text := by
  rcases List.mem_append.mp printed with stdout | stderr
  · obtain ⟨text, cut, rfl⟩ := List.mem_map.mp stdout
    obtain ⟨piece, among, rfl⟩ := List.mem_map.mp cut
    have decoded :
        Text.decodeLossy piece ∈ Text.cutAfter '\n' (Text.decodeLossy execution.stdout) :=
      Text.decodeLossy_lines execution.stdout ▸ List.mem_map_of_mem among
    exact (Text.lineFeed_not_mem_of_mem_cutAfter decoded).1
  · obtain ⟨text, cut, rfl⟩ := List.mem_map.mp stderr
    exact Text.lineFeed_not_mem_of_mem_lines cut

theorem Plan.degraded?_carryOut (plan : Plan) (settings : Settings) (before : Workspace)
    (delivery : Delivery) :
    (plan.carryOut settings before delivery).outcome.map Outcome.degraded? =
      delivery.ending.map fun _ =>
        (Feed.start (plan.feedOptions settings)).firstFault? (introduced delivery.lines) := by
  obtain ⟨-, fault, -⟩ :=
    (Session.start (plan.feedOptions settings)).receiveAll_follows rfl delivery.lines
  rw [carryOut]
  cases delivery.ending with
  | error failure => rfl
  | ok success => exact congrArg Except.ok fault

theorem Replay.mem_faults {options : FeedOptions} {lines : List Text} {fault : FeedFault}
    (refused : ((Replay.start options).run lines).fault? = some fault) :
    fault ∈ (Feed.start options).faults (introducedText lines) := by
  obtain ⟨-, first, -⟩ := (Replay.start options).run_follows lines
  rw [refused, Feed.firstFault?_eq_head?] at first
  exact List.mem_of_head? first.symm

theorem ReplayResult.fault?_of_failure? {result : ReplayResult} {file path : Path} {number : Nat}
    {fault : FeedFault} (fails : result.failure? file = some (.uninterpretable path number fault)) :
    result.fault? = some fault := by
  rw [failure?] at fails
  split at fails
  · next found =>
      cases fails
      exact found
  · split at fails <;> cases fails

theorem ReplayRequest.failure?_run {context : CommandContext} {file : Path} {content : Bytes}
    (readable : context.workspace.read file = .ok content) (request : ReplayRequest) :
    (request.run context file).failure? = (request.replay file content).failure? file := by
  simp only [run, readable]
  cases (request.replay file content).failure? file <;> rfl

theorem ReplayRequest.fault_of_uninterpretable {request : ReplayRequest}
    {context : CommandContext} {file path : Path} {number : Nat} {fault : FeedFault}
    (fails : (request.run context file).failure? = some (.uninterpretable path number fault)) :
    request.strict = true ∧ fault = .nesting .underflow := by
  cases readable : context.workspace.read file with
  | error unreadable =>
      simp only [run, readable] at fails
      cases fails
  | ok content =>
      rw [failure?_run readable] at fails
      have member := Replay.mem_faults (ReplayResult.fault?_of_failure? fails)
      obtain ⟨strict, underflow⟩ := Feed.faults_of_default rfl fault member
      refine ⟨?_, underflow fun line introduced => ?_⟩
      · simpa [Feed.start, feedOptions] using strict
      · have text :
            line.1 ∈ (introducedText (Text.lines (Text.decodeLossy content))).map Prod.fst :=
          List.mem_map_of_mem introduced
        rw [introducedText, texts_introduced, List.map_map] at text
        exact Text.lineFeed_not_mem_of_mem_lines (by simpa using text)

/-- With a default file for messages, no line is refused under the lenient policy, and under the
strict one a line without line feeds is refused for a stray closing parenthesis at most.  So a
lenient build never degrades, and a replay fails at a line only if it is strict and the parenthesis
is stray.  Without a default, a message is refused exactly where it is listened to, names no file
itself and no open file has a path. -/
theorem only_stray_closings_are_refused :
    (∀ (feed : Feed) (default : Path) (lines : List (Text × LineKind)),
        feed.options.defaultFile? = some default →
          (feed.options.policy = .lenient → feed.faults lines = []) ∧
            (feed.options.policy = .strict → (∀ line ∈ lines, '\n' ∉ line.1) →
              ∀ fault ∈ feed.faults lines, fault = .nesting .underflow)) ∧
      (∀ (execution : Execution), ∀ line ∈ execution.lines, '\n' ∉ line.text) ∧
      (∀ (content : Bytes), ∀ line ∈ Text.lines (Text.decodeLossy content), '\n' ∉ line) ∧
      (∀ (plan : Plan) (settings : Settings) (before : Workspace) (delivery : Delivery),
        settings.policy = .lenient →
          (plan.carryOut settings before delivery).outcome.map Outcome.degraded? =
            delivery.ending.map fun _ => none) ∧
      (∀ (request : ReplayRequest) (context : CommandContext) (file path : Path) (number : Nat)
          (fault : FeedFault),
        (request.run context file).failure? = some (.uninterpretable path number fault) →
          request.strict = true ∧
            (Failure.uninterpretable path number fault).cause?.map Cause.message =
              some NestingFault.underflow.message) ∧
      (∀ (feed : Feed) (line : Text) (kind : LineKind) (message : Text),
        feed.options.defaultFile? = none →
          (refusal? (feed.step line kind).2 = some (.missingFile message) ↔
            feed.listensTo line kind = true ∧
              (∃ diagnostic, Message.announced? line = some diagnostic ∧
                diagnostic.file? = none ∧ message = diagnostic.message) ∧
              ∀ path ∈ (feed.follow line).1.nesting.files.paths, path = [])) := by
  refine ⟨?_, ?_, ?_, ?_, ?_, ?_⟩
  · intro feed default lines fallback
    refine ⟨Feed.faults_eq_nil fallback, fun _ unbroken fault member => ?_⟩
    exact (Feed.faults_of_default fallback fault member).2 unbroken
  · intro execution line printed
    exact Execution.lineFeed_not_mem printed
  · intro content line
    exact Text.lineFeed_not_mem_of_mem_lines
  · intro plan settings before delivery lenient
    have faultless :
        (Feed.start (plan.feedOptions settings)).faults (introduced delivery.lines) = [] :=
      Feed.faults_eq_nil rfl lenient
    rw [Plan.degraded?_carryOut, Feed.firstFault?_eq_head?, faultless]
    rfl
  · intro request context file path number fault fails
    obtain ⟨strict, rfl⟩ := ReplayRequest.fault_of_uninterpretable fails
    exact ⟨strict, rfl⟩
  · intro feed line kind message noDefault
    rw [Feed.step_missingFile_iff, Feed.currentFile?_eq_none_iff, Feed.options_follow]
    constructor
    · rintro ⟨listens, ⟨-, unnamed⟩, about⟩
      exact ⟨listens, about, unnamed⟩
    · rintro ⟨listens, about, unnamed⟩
      exact ⟨listens, ⟨noDefault, unnamed⟩, about⟩

/-- The parenthesis behind the warning is stray, and so is the one in the replay. -/
theorem stray_closings_are_refused :
    let options : FeedOptions := { defaultFile? := some "main.tex" }
    let lines : List (Text × LineKind) :=
      [("This is pdfTeX", .banner), ("LaTeX Warning: Empty.", .output), (")", .output)]
    let context : CommandContext := {
      workspace := { home := [], entries := [(["a.log"], .file (Text.encode "This is pdfTeX\n)\n"))] }
      environment := []
      programs := fun _ => none }
    let failure : Failure := .uninterpretable "a.log" 2 (.nesting .underflow)
    (Feed.start options).faults lines = [] ∧
      (∀ fault ∈ (Feed.start { options with policy := .strict }).faults lines,
        fault = .nesting .underflow) ∧
      (ReplayRequest.run { strict := true } context "a.log").failure? = some failure ∧
      failure.cause?.map Cause.message =
        some ("closing parenthesis with no open file" : Text) ∧
      refusal? ((Feed.start {}).step "LaTeX Warning: Empty." .output).2 =
        some (.missingFile "Empty.") := by
  intro options lines context failure
  obtain ⟨faults, -, -, -, interpreted, missing⟩ := only_stray_closings_are_refused
  have refused : (ReplayRequest.run { strict := true } context "a.log").failure? =
      some failure := by decide +kernel
  refine ⟨(faults _ _ lines rfl).1 rfl, (faults _ _ lines rfl).2 rfl (by decide), refused,
    (interpreted _ _ _ _ _ _ refused).2, ?_⟩
  refine (missing _ _ _ _ rfl).mpr ⟨by decide, ⟨_, rfl, rfl, rfl⟩, by decide⟩

end Typeset
