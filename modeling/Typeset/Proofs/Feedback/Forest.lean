import Typeset.Proofs.Feedback.Attribution
import Typeset.Proofs.Nesting.SimpleLayout

/-!
Logs as forests: messages, error blocks and files, which hold messages, error blocks and files in
turn.  Whatever stands inside of the error blocks, a message is attributed to the innermost file
around it, and where the file ends everything is as it was where the file began.
-/

namespace Typeset

/-- A line outside of the error blocks that leaves the open files alone. -/
structure MessageLine where
  pieces : List SimplePiece
  noHeader : Message.isErrorHeader (Text.trim (pieces.flatMap SimplePiece.text)) = false

def MessageLine.text (line : MessageLine) : Text :=
  line.pieces.flatMap SimplePiece.text

/-- An error, from its header to the context line.  The lines between them are arbitrary. -/
structure ErrorBlock where
  header : Text
  isHeader : Message.isErrorHeader (Text.trim header) = true
  echoes : List Text
  noReference : ∀ line ∈ echoes, Message.isLineReference line = false
  context : Text
  isReference : Message.isLineReference context = true

structure FilePath extends UnmarkedPath where
  named : text ≠ []
  narrow : Text.byteLength ('(' :: text) < FileToken.Joined.wrapWidth

/-- Items of a log, each before the rest of the items beside it. -/
inductive LogForest where
  | empty
  | message (line : MessageLine) (rest : LogForest)
  | block (block : ErrorBlock) (rest : LogForest)
  | file (path : FilePath) (inner rest : LogForest)

def ErrorBlock.entries (files : List Path) (block : ErrorBlock) : List LogEntry :=
  ⟨block.header, files, .insideError⟩ ::
    (block.echoes.map fun line => ⟨line, files, .insideError⟩) ++
      [⟨block.context, files, .normal⟩]

namespace LogForest

def entries (files : List Path) : LogForest → List LogEntry
  | empty => []
  | message line rest => ⟨line.text, files, .normal⟩ :: rest.entries files
  | block lines rest => lines.entries files ++ rest.entries files
  | file path inner rest =>
      ⟨'(' :: path.text, path.text :: files, .normal⟩ :: inner.entries (path.text :: files) ++
        ⟨[')'], files, .normal⟩ :: rest.entries files

end LogForest

theorem FilePath.noHeader (path : FilePath) :
    Message.isErrorHeader (Text.trim ('(' :: path.text)) = false := by
  have shown : Text.trim ('(' :: path.text) = '(' :: Text.trimEnd path.text :=
    Text.dropEndWhile_append ['('] path.text (by simp; decide)
  rw [shown]
  rfl

namespace Nesting

open FileToken FileToken.Joined

theorem consume_pieces (pieces : List SimplePiece) (files : List Path) :
    (within .fragment files).consume (pieces.flatMap SimplePiece.text) =
      (within .fragment files, none) := by
  obtain ⟨others, shown⟩ := SimplePiece.exists_dropLineEnds pieces
  have opensFirst : OpensFirst (others.flatMap SimplePiece.text) :=
    (SimpleBody.complete (.settled others)).opensFirst
  have noEnd : openAtEnd? (others.flatMap SimplePiece.text) = none :=
    (SimpleEnding.settled others).openAtEnd?_text
  have noOpening : openBefore? (others.flatMap SimplePiece.text) = none :=
    (SimpleEnding.settled others).openBefore?_text
  have counted : trailingCloses (others.flatMap SimplePiece.text) = 0 :=
    SimplePiece.trailingCloses_pieces [] (by simp) others
  have tokens (full : Bool) : lineTokens full (others.flatMap SimplePiece.text) = [] := by
    rw [lineTokens_of_opensFirst full opensFirst, opening, noEnd, noOpening, counted]
    rfl
  calc
    (within .fragment files).consume (pieces.flatMap SimplePiece.text) =
        (within .fragment files).run
          (lineTokens (isFullWidth (Text.dropLineEnds (pieces.flatMap SimplePiece.text)))
            (Text.dropLineEnds (pieces.flatMap SimplePiece.text))) := rfl
    _ = (within .fragment files, none) := by rw [shown, tokens, run_nil]

theorem consume_path (path : FilePath) (files : List Path) :
    (within .fragment files).consume ('(' :: path.text) =
      (within .fragment (path.text :: files), none) := by
  have narrow : Text.byteLength ('(' :: path.text ++ []) < wrapWidth := by
    rw [List.append_nil]
    exact path.narrow
  let line : SimpleLine :=
    { spaces := []
      body := .opens [] path.toUnmarkedPath (.spaced ⟨[], by simp, by simp⟩)
      narrow }
  have followed := line.consume_text files
  rwa [show line.text = '(' :: path.text from List.append_nil _] at followed

theorem consume_closing (path : Path) (files : List Path) :
    (within .fragment (path :: files)).consume [')'] = (within .fragment files, none) := by
  let line : SimpleLine := { spaces := [0], body := .complete (.settled []), narrow := by decide }
  exact line.consume_text (path :: files)

end Nesting

namespace Feed.ReadsThrough

variable {options : FeedOptions} {default : Path} {files : List Path} {feed : Feed}
variable (raw : options.raw = false) (fallback : options.defaultFile? = some default)
include raw fallback

theorem echoes (lines : List Text)
    (noReference : ∀ line ∈ lines, Message.isLineReference line = false)
    (named : ∀ path ∈ files, path ≠ []) (reading : feed.Reading options files .insideError) :
    ReadsThrough options default feed (lines.map fun line => ⟨line, files, .insideError⟩) files
      .insideError := by
  induction lines generalizing feed with
  | nil => exact nil reading
  | cons line lines ih =>
      have step := reading.step_ignored line raw (.inl rfl) named fallback
      rw [Listener.modeAfterLine_insideError (noReference line List.mem_cons_self)] at step
      exact cons step fun next reading =>
        ih (fun other member => noReference other (List.mem_cons_of_mem line member)) reading

theorem block (block : ErrorBlock) (named : ∀ path ∈ files, path ≠ [])
    (reading : feed.Reading options files .normal) :
    ReadsThrough options default feed (block.entries files) files .normal := by
  have header := reading.step_ignored block.header raw (.inr block.isHeader) named fallback
  rw [Listener.modeAfterLine_header block.isHeader] at header
  rw [ErrorBlock.entries, List.cons_append]
  refine cons header fun next reading => ?_
  refine (echoes raw fallback block.echoes block.noReference named reading).append
    fun next reading => ?_
  have context := reading.step_ignored block.context raw (.inl rfl) named fallback
  rw [Listener.modeAfterLine_lineReference block.isReference] at context
  exact cons context fun next reading => nil reading

theorem forest (forest : LogForest) (named : ∀ path ∈ files, path ≠ [])
    (reading : feed.Reading options files .normal) :
    ReadsThrough options default feed (forest.entries files) files .normal := by
  induction forest generalizing feed files with
  | empty => exact nil reading
  | message line rest ih =>
      have step := reading.step_followed raw line.noHeader
        (Nesting.consume_pieces line.pieces files) named fallback
      exact cons step fun next reading => ih named reading
  | block lines rest ih =>
      exact (block raw fallback lines named reading).append fun next reading => ih named reading
  | file path inner rest innerIh restIh =>
      have namedInner : ∀ other ∈ path.text :: files, other ≠ [] :=
        List.forall_mem_cons.mpr ⟨path.named, named⟩
      have opened := reading.step_followed raw path.noHeader
        (Nesting.consume_path path files) namedInner fallback
      -- What is inside of the file leaves exactly this file to be closed by the line behind it.
      have inside := cons opened fun next reading => innerIh namedInner reading
      refine inside.append fun next reading => ?_
      have closed := reading.step_followed raw (by decide)
        (Nesting.consume_closing path.text files) named fallback
      exact cons closed fun next reading => restIh named reading

end Feed.ReadsThrough

/-- Every diagnostic of a log that names no file itself is attributed to the innermost file around
it, or to the default file outside of all files.  No line is refused and none counts as faulty, and
in the end no file is open. -/
theorem log_is_attributed (options : FeedOptions) (default : Path) (forest : LogForest)
    (rule : options.rule = .fragment) (raw : options.raw = false)
    (fallback : options.defaultFile? = some default) :
    List.Forall₂ (Feed.Attributed options default) (forest.entries [])
        ((Feed.start options).answers ((forest.entries []).map LogEntry.output)) ∧
      ((Feed.start options).after ((forest.entries []).map LogEntry.output)).Reading
        options [] .normal := by
  have reading : (Feed.start options).Reading options [] .normal := by
    refine ⟨rfl, ?_, rfl, rfl⟩
    rw [Feed.start, rule]
    rfl
  obtain ⟨attributed, after⟩ :=
    Feed.ReadsThrough.forest raw fallback forest (by simp) reading
  exact ⟨attributed, after⟩

/-- A parenthesis that is echoed inside of an error block opens no file. -/
theorem nested_log_is_attributed :
    let options : FeedOptions := { defaultFile? := some "main.tex", baseDir? := some "/work" }
    let block : ErrorBlock :=
      ⟨"! Missing $ inserted.", by decide, ["<inserted text> (./b.tex"], by decide, "l.9 x_1)",
        by decide⟩
    let warning : MessageLine :=
      ⟨[.plain ⟨"LaTeX Warning: Empty ", List.all_eq_true.mp (by decide)⟩,
        .pair ⟨"x", List.all_eq_true.mp (by decide)⟩], by decide⟩
    let path : FilePath :=
      ⟨⟨⟨"./a.tex", List.all_eq_true.mp (by decide), by decide⟩,
        fun ends => absurd ends.getLast? (by decide)⟩, by decide, by decide⟩
    let forest : LogForest := .file path (.block block (.message warning .empty)) .empty
    (((Feed.start options).answers ((forest.entries []).map LogEntry.output)).map
        fun result => result.2.map Feedback.diagnostic?).map
        (Except.map fun diagnostic? => diagnostic?.bind Diagnostic.file?) =
      [.ok none, .ok (some "/work/a.tex"), .ok none, .ok (some "/work/a.tex"),
        .ok (some "/work/a.tex"), .ok none] := by
  intro options block warning path forest
  obtain ⟨attributed, -⟩ := log_is_attributed options "main.tex" forest rfl rfl rfl
  rw [Feed.diagnostics_of_attributed attributed]
  decide

end Typeset
