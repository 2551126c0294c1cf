import Typeset.Proofs.Feedback.Run
import Typeset.Proofs.Message.Heard
import Typeset.Proofs.Nesting.Mark

/-!
Which file a diagnostic is about.  As long as it is known which files are open before each line, it
is known what each line is answered with.
-/

namespace Typeset

structure LogEntry where
  line : Text
  files : List Path
  mode : ListenerMode

def LogEntry.output (entry : LogEntry) : Text × LineKind :=
  (entry.line, .output)

namespace Feed

/-- Between two lines of a log, with the given files open. -/
structure Reading (options : FeedOptions) (files : List Path) (mode : ListenerMode)
    (feed : Feed) : Prop where
  options : feed.options = options
  nesting : feed.nesting = .within .fragment files
  mode : feed.listener.mode = mode
  faultless : feed.tally.faults = 0

/-- A diagnostic with the file it is about: the one it names, else the innermost open one. -/
def assigned (options : FeedOptions) (default : Path) (files : List Path)
    (diagnostic : Diagnostic) : Diagnostic :=
  let file := diagnostic.file?.getD (files.head?.getD default)
  { diagnostic with file? := some (Path.resolveFrom options.baseDir? file) }

/-- What an entry of a log comes to: its files are open afterwards, and the answer to its line
carries the diagnostic on it, if there is one, with the file it is about. -/
def Attributed (options : FeedOptions) (default : Path) (entry : LogEntry)
    (result : Feed × Except FeedFault Feedback) : Prop :=
  Reading options entry.files entry.mode result.1 ∧
    result.2.map Feedback.diagnostic? =
      .ok ((Message.announced? entry.line).map (assigned options default entry.files))

end Feed

namespace Feed.Reading

variable {options : FeedOptions} {default : Path} {files : List Path} {mode : ListenerMode}
variable {feed : Feed}

theorem hear (reading : feed.Reading options files mode) (line : Text) :
    Reading options files (Listener.modeAfterLine mode line)
      { feed with listener := (feed.listener.hear line).2 } where
  options := reading.options
  nesting := reading.nesting
  mode := by rw [Listener.mode_hear, reading.mode]
  faultless := reading.faultless

theorem countDiagnostic (reading : feed.Reading options files mode) :
    feed.countDiagnostic.Reading options files mode where
  options := reading.options
  nesting := reading.nesting
  mode := reading.mode
  faultless := reading.faultless

theorem assign (reading : feed.Reading options files mode) (named : ∀ path ∈ files, path ≠ [])
    (fallback : options.defaultFile? = some default) (diagnostic : Diagnostic) :
    (feed.assign diagnostic).1.Reading options files mode ∧
      (feed.assign diagnostic).2.map Feedback.diagnostic? =
        .ok (some (assigned options default files diagnostic)) := by
  obtain rfl := reading.options
  have current : feed.nesting.current = (files.head?, feed.nesting) := by
    rw [reading.nesting, Nesting.current_within _ named]
  have found : files.head?.or feed.options.defaultFile? = some (files.head?.getD default) := by
    rw [fallback]
    cases files.head? <;> rfl
  cases own : diagnostic.file? with
  | some file =>
      simp only [Feed.assign, own, report, Feed.assigned]
      exact ⟨reading.countDiagnostic, rfl⟩
  | none =>
      simp only [Feed.assign, own, current, found, report, Feed.assigned]
      exact ⟨reading.countDiagnostic, rfl⟩

theorem answer (reading : feed.Reading options files mode) (named : ∀ path ∈ files, path ≠ [])
    (fallback : options.defaultFile? = some default) (line : Text) :
    Attributed options default ⟨line, files, Listener.modeAfterLine mode line⟩
      (feed.answer line) := by
  have after := reading.hear line
  unfold Attributed Feed.answer
  cases read : Message.announced? line with
  | some diagnostic =>
      rw [Listener.hear_of_announced _ read] at after ⊢
      exact after.assign named fallback diagnostic
  | none =>
      obtain ⟨heard, hears, noDiagnostic⟩ := Listener.hear_of_not_announced feed.listener read
      rw [hears] at after ⊢
      cases heard with
      | message message =>
          cases message with
          | diagnostic diagnostic => exact absurd rfl (noDiagnostic diagnostic)
          | headline text => exact ⟨after, rfl⟩
          | separator => exact ⟨after, rfl⟩
      | echoed => exact ⟨after, rfl⟩
      | hidden => exact ⟨after, rfl⟩

theorem step_followed {next : List Path} {line : Text}
    (reading : feed.Reading options files .normal) (raw : options.raw = false)
    (noHeader : Message.isErrorHeader (Text.trim line) = false)
    (followed : (Nesting.within .fragment files).consume line = (.within .fragment next, none))
    (named : ∀ path ∈ next, path ≠ []) (fallback : options.defaultFile? = some default) :
    Attributed options default ⟨line, next, .normal⟩ (feed.step line .output) := by
  have follows : feed.countLine.follows line = true := by
    have inside : feed.countLine.listener.isInsideError = false := by
      simp [Listener.isInsideError, Feed.countLine, reading.mode]
    simp [Feed.follows, inside, noHeader]
  have consumed : feed.countLine.nesting.consume line = (.within .fragment next, none) := by
    rw [Feed.countLine, reading.nesting, followed]
  have passes : feed.countLine.passesOver .output = false := by
    simp [passesOver, countLine, reading.options, raw]
  have after : Reading options next .normal
      { feed.countLine with nesting := .within .fragment next } :=
    ⟨reading.options, rfl, reading.mode, reading.faultless⟩
  have answered := after.answer named fallback line
  rw [Listener.modeAfterLine_normal noHeader] at answered
  simpa [step, passes, follow, follows, consumed] using answered

theorem step_ignored (reading : feed.Reading options files mode) (line : Text)
    (raw : options.raw = false)
    (ignored : mode = .insideError ∨ Message.isErrorHeader (Text.trim line) = true)
    (named : ∀ path ∈ files, path ≠ []) (fallback : options.defaultFile? = some default) :
    Attributed options default ⟨line, files, Listener.modeAfterLine mode line⟩
      (feed.step line .output) := by
  have follows : feed.countLine.follows line = false := by
    rcases ignored with rfl | header
    · simp [Feed.follows, Listener.isInsideError, Feed.countLine, reading.mode]
    · simp [Feed.follows, header]
  have passes : feed.countLine.passesOver .output = false := by
    simp [passesOver, countLine, reading.options, raw]
  have after : feed.countLine.Reading options files mode :=
    ⟨reading.options, reading.nesting, reading.mode, reading.faultless⟩
  have answered := after.answer named fallback line
  simpa [step, passes, follow, follows] using answered

end Feed.Reading

namespace Feed

structure ReadsThrough (options : FeedOptions) (default : Path) (feed : Feed)
    (entries : List LogEntry) (files : List Path) (mode : ListenerMode) : Prop where
  attributed : List.Forall₂ (Attributed options default) entries
    (feed.answers (entries.map LogEntry.output))
  after : (feed.after (entries.map LogEntry.output)).Reading options files mode

namespace ReadsThrough

variable {options : FeedOptions} {default : Path} {files inner : List Path}
variable {mode innerMode : ListenerMode} {feed : Feed} {first second : List LogEntry}

theorem nil (reading : feed.Reading options files mode) :
    ReadsThrough options default feed [] files mode :=
  ⟨.nil, reading⟩

theorem cons {entry : LogEntry} {entries : List LogEntry}
    (attributed : Attributed options default entry (feed.step entry.line .output))
    (others : ∀ next : Feed, next.Reading options entry.files entry.mode →
      ReadsThrough options default next entries files mode) :
    ReadsThrough options default feed (entry :: entries) files mode := by
  obtain ⟨answered, reading⟩ := others _ attributed.1
  exact ⟨.cons attributed answered, reading⟩

theorem append (start : ReadsThrough options default feed first inner innerMode)
    (others : ∀ next : Feed, next.Reading options inner innerMode →
      ReadsThrough options default next second files mode) :
    ReadsThrough options default feed (first ++ second) files mode := by
  obtain ⟨answered, reading⟩ := others _ start.after
  constructor
  · rw [List.map_append, answers_append]
    exact List.rel_append start.attributed answered
  · rw [List.map_append, after_append]
    exact reading

end ReadsThrough

theorem diagnostics_of_attributed {options : FeedOptions} {default : Path}
    {entries : List LogEntry} {results : List (Feed × Except FeedFault Feedback)}
    (attributed : List.Forall₂ (Attributed options default) entries results) :
    (results.map fun result => result.2.map Feedback.diagnostic?) = entries.map fun entry =>
      .ok ((Message.announced? entry.line).map (assigned options default entry.files)) := by
  induction attributed with
  | nil => rfl
  | cons first others ih => rw [List.map_cons, List.map_cons, first.2, ih]

end Feed

end Typeset
