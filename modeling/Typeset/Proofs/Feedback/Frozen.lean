import Mathlib.Data.List.DropRight
import Typeset.Proofs.Feedback.Run
import Typeset.Proofs.Feedback.Step

/-!
When the open files are followed.  Outside of the error blocks every line is, apart from headers.
From the header of a block to its context line nothing happens to the nesting, and what the block
says about no other file it says about one file.
-/

namespace Typeset

/-- The nesting consumes the given lines one after the other, with the given number of faults.
Between them it may be asked for the current file. -/
inductive Nesting.Consumes : Nesting → List Text → Nat → Nesting → Prop
  | done (nesting : Nesting) : Consumes nesting [] 0 nesting
  | asked {nesting last : Nesting} {lines : List Text} {faults : Nat} :
      Consumes nesting.current.2 lines faults last → Consumes nesting lines faults last
  | line {nesting last : Nesting} {line : Text} {lines : List Text} {faults : Nat} :
      Consumes (nesting.consume line).1 lines faults last →
      Consumes nesting (line :: lines) ((nesting.consume line).2.toList.length + faults) last

theorem Nesting.Consumes.append {nesting middle last : Nesting} {first second : List Text}
    {faults others : Nat} (start : nesting.Consumes first faults middle)
    (rest : middle.Consumes second others last) :
    nesting.Consumes (first ++ second) (faults + others) last := by
  induction start with
  | done nesting => simpa using rest
  | asked _ ih => exact .asked (ih rest)
  | line _ ih =>
      rw [Nat.add_assoc]
      exact .line (ih rest)

@[simp] theorem Nesting.current_current (nesting : Nesting) :
    nesting.current.2.current = nesting.current := by
  have settled : nesting.files.settle.settle = nesting.files.settle :=
    congrArg OpenFiles.mk (List.dropWhile_idempotent _ _)
  simp [current, OpenFiles.current?, settled]

namespace Feed

/-- Whether the nesting is to consume a line: it is output, met outside of the error blocks, and
does not announce an error itself. -/
def tracks (feed : Feed) (line : Text × LineKind) : Bool :=
  line.2 = .output && feed.listener.mode = .normal &&
    !(Message.announced? line.1).any fun diagnostic => diagnostic.kind = .error

def tracked : Feed → List (Text × LineKind) → List Text
  | _, [] => []
  | feed, line :: lines =>
      (if feed.tracks line then [line.1] else []) ++ (feed.step line.1 line.2).1.tracked lines

end Feed

theorem Message.announces_error (line : Text) :
    (announced? line).any (fun diagnostic => diagnostic.kind = .error) =
      isErrorHeader (Text.trim line) := by
  cases read : announced? line with
  | some diagnostic =>
      have kind := kind_eq_error_iff read
      cases header : isErrorHeader (Text.trim line) <;> simp_all
  | none =>
      cases header : isErrorHeader (Text.trim line) with
      | false => rfl
      | true =>
          obtain ⟨diagnostic, found, -⟩ := exists_announced_of_isErrorHeader header
          simp [read] at found

namespace Feed

variable {feed : Feed}

theorem follows_eq (feed : Feed) (line : Text) :
    feed.follows line = feed.tracks (line, .output) := by
  have inside : feed.listener.isInsideError = !decide (feed.listener.mode = .normal) := by
    cases mode : feed.listener.mode <;> simp [Listener.isInsideError, mode]
  simp [follows, tracks, Message.announces_error, inside]

theorem consumes_assign (feed : Feed) (diagnostic : Diagnostic) :
    feed.nesting.Consumes [] 0 (feed.assign diagnostic).1.nesting ∧
      (feed.assign diagnostic).1.tally.faults = feed.tally.faults := by
  rcases feed.assign_cases diagnostic with
    ⟨file, -, assigned⟩ | ⟨file, -, -, assigned⟩ | ⟨-, -, assigned⟩
  · rw [assigned]
    exact ⟨.done _, rfl⟩
  · rw [assigned]
    exact ⟨.asked (.done _), rfl⟩
  · rw [assigned]
    exact ⟨.asked (.done _), rfl⟩

theorem consumes_answer (feed : Feed) (line : Text) :
    feed.nesting.Consumes [] 0 (feed.answer line).1.nesting ∧
      (feed.answer line).1.tally.faults = feed.tally.faults := by
  cases read : Message.announced? line with
  | some diagnostic =>
      rw [answer_of_announced read]
      exact consumes_assign (feed.heard line) diagnostic
  | none =>
      obtain ⟨feedback, answered, -⟩ := feed.answer_of_not_announced read
      rw [answered]
      exact ⟨.done _, rfl⟩

theorem consumes_follow (feed : Feed) (line : Text) :
    feed.nesting.Consumes (if feed.follows line then [line] else [])
      (feed.follow line).2.toList.length (feed.follow line).1.nesting := by
  cases followed : feed.follows line with
  | true =>
      rw [follow_of_follows followed, if_pos rfl]
      exact .line (.done _)
  | false =>
      rw [follow_of_not_follows followed, if_neg (by simp)]
      exact .done _

theorem consumes_step (feed : Feed) (unraw : feed.options.raw = false) (line : Text × LineKind) :
    ∃ faults,
      feed.nesting.Consumes (if feed.tracks line then [line.1] else []) faults
          (feed.step line.1 line.2).1.nesting ∧
        (feed.step line.1 line.2).1.tally.faults = feed.tally.faults + faults := by
  obtain ⟨line, kind⟩ := line
  have consumed := consumes_follow feed.countLine line
  have counted := faults_follow feed.countLine line
  have same : feed.countLine.follows line = feed.tracks (line, .output) := follows_eq _ line
  rw [same] at consumed
  rcases feed.step_cases line kind with
    ⟨passed, stepped⟩ | ⟨fault, heard, -, -, stepped⟩ | ⟨heard, -, stepped⟩
  · have banner : kind = .banner := by simpa [passesOver_eq unraw] using passed
    refine ⟨0, ?_, ?_⟩
    · rw [stepped]
      simpa [tracks, banner] using .done feed.nesting
    · rw [stepped]
      rfl
  · obtain rfl := kind_of_not_passesOver heard
    rw [stepped]
    exact ⟨_, consumed, counted⟩
  · obtain rfl := kind_of_not_passesOver heard
    obtain ⟨answered, kept⟩ := (feed.countLine.follow line).1.consumes_answer line
    refine ⟨(feed.countLine.follow line).2.toList.length, ?_, ?_⟩
    · have both := consumed.append answered
      rw [List.append_nil] at both
      rw [stepped]
      exact both
    · rw [stepped, kept, counted]
      rfl

theorem consumes_run (feed : Feed) (unraw : feed.options.raw = false)
    (lines : List (Text × LineKind)) :
    ∃ faults, feed.nesting.Consumes (feed.tracked lines) faults (feed.after lines).nesting ∧
      (feed.after lines).tally.faults = feed.tally.faults + faults := by
  induction lines generalizing feed with
  | nil => exact ⟨0, .done _, rfl⟩
  | cons line lines ih =>
      obtain ⟨first, consumed, counted⟩ := feed.consumes_step unraw line
      have unrawNext : (feed.step line.1 line.2).1.options.raw = false := by
        rw [options_step, unraw]
      obtain ⟨others, consumedRest, countedRest⟩ := ih _ unrawNext
      refine ⟨first + others, consumed.append consumedRest, ?_⟩
      rw [after_cons, countedRest, counted, Nat.add_assoc]

def ascribed (feed : Feed) (diagnostic : Diagnostic) : Except FeedFault (Option Diagnostic) :=
  match feed.currentFile? with
  | some file =>
      let file := Path.resolveFrom feed.options.baseDir? file
      .ok (some { diagnostic with file? := some file })
  | none => .error (.missingFile diagnostic.message)

/-- Since before, the nesting was at most asked for the current file, and no fault was counted. -/
structure Holds (before feed : Feed) : Prop where
  options : feed.options = before.options
  nesting : feed.nesting = { before.nesting with files := before.nesting.files.settle }
  faults : feed.tally.faults = before.tally.faults

structure Frozen (before : Feed) (line : Text × LineKind)
    (result : Feed × Except FeedFault Feedback) : Prop where
  holds : before.Holds result.1
  about : ∀ diagnostic, line.2 = .output → Message.announced? line.1 = some diagnostic →
    diagnostic.file? = none → result.2.map Feedback.diagnostic? = before.ascribed diagnostic

def endsBlock (line : Text × LineKind) : Bool :=
  line.2 = .output && Message.isLineReference line.1

variable {before : Feed} {line : Text} {diagnostic : Diagnostic}

theorem assign_unnamed (feed : Feed) (own : diagnostic.file? = none) :
    feed.Holds (feed.assign diagnostic).1 ∧
      (feed.assign diagnostic).2.map Feedback.diagnostic? = feed.ascribed diagnostic := by
  cases current : feed.currentFile? with
  | some file =>
      rw [assign_current own current, ascribed, current]
      exact ⟨⟨rfl, rfl, rfl⟩, rfl⟩
  | none =>
      rw [assign_missing own current, ascribed, current]
      exact ⟨⟨rfl, rfl, rfl⟩, rfl⟩

theorem Holds.current (holds : before.Holds feed) :
    feed.nesting.current = before.nesting.current := by
  rw [holds.nesting]
  exact before.nesting.current_current

theorem Holds.trans {next : Feed} (holds : before.Holds feed) (goesOn : feed.Holds next) :
    before.Holds next where
  options := goesOn.options.trans holds.options
  nesting := by
    calc
      next.nesting = feed.nesting.current.2 := goesOn.nesting
      _ = before.nesting.current.2 := by rw [holds.current]
  faults := goesOn.faults.trans holds.faults

theorem Holds.ascribed (holds : before.Holds feed) (diagnostic : Diagnostic) :
    feed.ascribed diagnostic = before.ascribed diagnostic := by
  simp only [Feed.ascribed, currentFile?, holds.current, holds.options]

theorem Holds.answer (holds : before.Holds feed) (line : Text) :
    before.Holds (feed.answer line).1 ∧
      ∀ diagnostic, Message.announced? line = some diagnostic → diagnostic.file? = none →
        (feed.answer line).2.map Feedback.diagnostic? = before.ascribed diagnostic := by
  have heard : before.Holds (feed.heard line) := ⟨holds.options, holds.nesting, holds.faults⟩
  cases read : Message.announced? line with
  | none =>
      obtain ⟨feedback, answered, -⟩ := feed.answer_of_not_announced read
      rw [answered]
      refine ⟨heard, ?_⟩
      rintro _ ⟨⟩
  | some diagnostic =>
      rw [answer_of_announced read]
      cases own : diagnostic.file? with
      | some file =>
          rw [assign_named own]
          refine ⟨⟨heard.options, heard.nesting, heard.faults⟩, ?_⟩
          rintro _ ⟨⟩ unnamed
          rw [own] at unnamed
          cases unnamed
      | none =>
          obtain ⟨asked, told⟩ := (feed.heard line).assign_unnamed own
          refine ⟨heard.trans asked, ?_⟩
          rintro _ ⟨⟩ -
          rw [told, heard.ascribed]

theorem step_of_not_follows (unraw : feed.options.raw = false)
    (ignored : feed.follows line = false) :
    feed.step line .output = feed.countLine.answer line := by
  have ignoredThen : feed.countLine.follows line = false := ignored
  rcases feed.step_cases line .output with
    ⟨passed, -⟩ | ⟨fault, -, -, refused, -⟩ | ⟨-, -, stepped⟩
  · simp [passesOver_eq unraw] at passed
  · rw [follow_of_not_follows ignoredThen] at refused
    cases refused
  · rw [stepped, follow_of_not_follows ignoredThen]

theorem follows_insideError (inside : feed.listener.mode = .insideError) :
    feed.follows line = false := by
  simp [follows, Listener.isInsideError, inside]

theorem frozen_header (unraw : feed.options.raw = false)
    (read : Message.announced? line = some diagnostic) (header : diagnostic.kind = .error) :
    feed.Frozen (line, .output) (feed.step line .output) ∧
      (feed.step line .output).1.listener.mode = .insideError := by
  have isHeader := (Message.kind_eq_error_iff read).mp header
  have ignored : feed.follows line = false := by simp [follows, isHeader]
  have unnamed := Message.file?_of_kind_error read header
  obtain ⟨asked, told⟩ := (feed.countLine.heard line).assign_unnamed unnamed
  have stepped : feed.step line .output = (feed.countLine.heard line).assign diagnostic := by
    rw [step_of_not_follows unraw ignored, answer_of_announced read]
  refine ⟨⟨?_, ?_⟩, ?_⟩
  · rw [stepped]
    exact ⟨asked.options, asked.nesting, asked.faults⟩
  · rintro _ - found -
    obtain rfl := Option.some.inj (read.symm.trans found)
    rw [stepped]
    exact told
  · rw [step_of_not_follows unraw ignored, listener_answer, Listener.mode_hear,
      Listener.modeAfterLine_header isHeader]

theorem frozen_step (holds : before.Holds feed) (unraw : before.options.raw = false)
    (inside : feed.listener.mode = .insideError) (line : Text × LineKind) :
    before.Frozen line (feed.step line.1 line.2) ∧
      (endsBlock line = false → (feed.step line.1 line.2).1.listener.mode = .insideError) := by
  obtain ⟨line, kind⟩ := line
  have unrawNow : feed.options.raw = false := by rw [holds.options, unraw]
  cases kind with
  | banner =>
      have stepped : feed.step line .banner = (feed.countLine, .ok { rendering := .verbatim }) := by
        simp [step, passesOver, countLine]
      rw [stepped]
      refine ⟨⟨⟨holds.options, holds.nesting, holds.faults⟩, ?_⟩, fun _ => inside⟩
      rintro _ ⟨⟩
  | output =>
      have counted : before.Holds feed.countLine := ⟨holds.options, holds.nesting, holds.faults⟩
      obtain ⟨held, told⟩ := counted.answer line
      rw [step_of_not_follows unrawNow (follows_insideError inside)]
      refine ⟨⟨held, fun diagnostic _ => told diagnostic⟩, ?_⟩
      intro goesOn
      have noReference : Message.isLineReference line = false := by
        simpa [endsBlock] using goesOn
      calc
        (feed.countLine.answer line).1.listener.mode =
            Listener.modeAfterLine feed.listener.mode line := by
          rw [listener_answer, Listener.mode_hear]
          rfl
        _ = .insideError := by rw [inside, Listener.modeAfterLine_insideError noReference]

theorem frozen_answers (holds : before.Holds feed) (unraw : before.options.raw = false)
    (inside : feed.listener.mode = .insideError) (lines : List (Text × LineKind))
    (goesOn : ∀ line ∈ lines.dropLast, endsBlock line = false) :
    List.Forall₂ before.Frozen lines (feed.answers lines) := by
  induction lines generalizing feed with
  | nil => exact .nil
  | cons line lines ih =>
      obtain ⟨frozen, stays⟩ := frozen_step holds unraw inside line
      refine .cons frozen ?_
      -- The last line may end the block; only the others have to stay inside of it.
      cases lines with
      | nil => exact .nil
      | cons next later =>
          have goesOnNow : endsBlock line = false := goesOn line (by simp)
          refine ih frozen.holds (stays goesOnNow) ?_
          intro other member
          exact goesOn other (by simp [member])

end Feed

/-- Outside of the error blocks every line of output is tracked but for their headers, and nothing
else is.  An error block leaves the nesting alone from its header to its context line, except that
entries without a path are forgotten, and all that it says about no other file is about one file. -/
theorem nesting_is_frozen_in_error_blocks (feed : Feed) (unraw : feed.options.raw = false) :
    (∀ lines, ∃ faults,
        feed.nesting.Consumes (feed.tracked lines) faults (feed.after lines).nesting ∧
          (feed.after lines).tally.faults = feed.tally.faults + faults) ∧
      ∀ (header : Text) (later : List (Text × LineKind)),
        (Message.announced? header).any (fun diagnostic => diagnostic.kind = .error) = true →
          (∀ line ∈ later.dropLast, Feed.endsBlock line = false) →
            List.Forall₂ feed.Frozen ((header, .output) :: later)
              (feed.answers ((header, .output) :: later)) := by
  refine ⟨feed.consumes_run unraw, ?_⟩
  intro header later announces goesOn
  obtain ⟨diagnostic, read, isError⟩ := (Option.any_eq_true _ _).mp announces
  obtain ⟨frozen, inside⟩ := Feed.frozen_header unraw read (by simpa using isError)
  exact .cons frozen (Feed.frozen_answers frozen.holds unraw inside later goesOn)

theorem open_block_is_frozen :
    let files : OpenFiles := { innermostFirst := ["", "/a.tex"] }
    let feed : Feed := { options := {}, nesting := { rule := .fragment, files } }
    let later : List (Text × LineKind) :=
      [("(/b.tex", .output), ("l.1", .banner), ("! Emergency stop. )", .output),
        ("main.tex:7: gone", .output), ("l.5 \\oops", .output)]
    feed.options.raw = false ∧
      List.Forall₂ feed.Frozen (("! Undefined control sequence.", .output) :: later)
        (feed.answers (("! Undefined control sequence.", .output) :: later)) :=
  ⟨rfl, (nesting_is_frozen_in_error_blocks _ rfl).2 _ _ (by decide) (by decide)⟩

end Typeset
