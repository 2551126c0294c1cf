import Typeset.Proofs.Feedback.Policy
import Typeset.Proofs.Message.History

/-!
What the summary of a run accounts for.  Each line is one call of the feed, and each counter is the
number of calls of its kind, whatever became of the calls before.
-/

namespace Typeset.Feed

/-- A line that a feed is given, and the feed before it. -/
structure Call where
  before : Feed
  line : Text
  kind : LineKind

def calls (feed : Feed) : List (Text × LineKind) → List Call
  | [] => []
  | (line, kind) :: lines => ⟨feed, line, kind⟩ :: (feed.step line kind).1.calls lines

namespace Call

def result (call : Call) : Feed × Except FeedFault Feedback :=
  call.before.step call.line call.kind

def told? (call : Call) : Option Diagnostic :=
  match call.result.2 with
  | .ok feedback => feedback.diagnostic?
  | .error _ => none

/-- The diagnostic on a line that was refused because nothing names a file. -/
def lost? (call : Call) : Option Diagnostic :=
  match call.result.2 with
  | .error (.missingFile _) => Message.announced? call.line
  | _ => none

def heard? (call : Call) : Option Diagnostic :=
  call.told?.or call.lost?

def fault? (call : Call) : Option NestingFault :=
  if call.before.passesOver call.kind || !call.before.follows call.line then none
  else (call.before.nesting.consume call.line).2

end Call

variable {feed : Feed}

theorem fault?_eq (call : Call) :
    call.fault? = call.before.nestingFault? call.line call.kind := by
  rw [Call.fault?, nestingFault?]
  cases passes : call.before.passesOver call.kind with
  | true => rfl
  | false =>
      cases followed : call.before.follows call.line with
      | true => simp [follow_of_follows followed]
      | false => simp [follow_of_not_follows followed]

theorem result_cases (call : Call) :
    (call.before.passesOver call.kind = true ∧ call.fault? = none ∧
        call.result = (call.before.countLine, .ok { rendering := .verbatim })) ∨
      (∃ fault, call.before.options.policy = .strict ∧
        call.fault? = some fault ∧
        call.fault? = (call.before.follow call.line).2 ∧
        call.result = ((call.before.follow call.line).1.countLine, .error (.nesting fault))) ∨
      (call.before.passesOver call.kind = false ∧
        (call.before.options.policy = .strict → call.fault? = none) ∧
        call.fault? = (call.before.follow call.line).2 ∧
        call.result = (call.before.follow call.line).1.countLine.answer call.line) := by
  obtain ⟨feed, line, kind⟩ := call
  have cases := feed.step_cases line kind
  rw [follow_countLine] at cases
  rcases cases with
    ⟨passed, stepped⟩ | ⟨fault, heard, strict, refused, stepped⟩ | ⟨heard, goesOn, stepped⟩
  · exact .inl ⟨passed, by simp [fault?_eq, nestingFault?, passed], stepped⟩
  · have same : Call.fault? ⟨feed, line, kind⟩ = (feed.follow line).2 := by
      simp [fault?_eq, nestingFault?, heard]
    exact .inr (.inl ⟨fault, strict, same.trans refused, same, stepped⟩)
  · have same : Call.fault? ⟨feed, line, kind⟩ = (feed.follow line).2 := by
      simp [fault?_eq, nestingFault?, heard]
    refine .inr (.inr ⟨heard, fun strict => ?_, same, stepped⟩)
    rcases goesOn with faultless | lenient
    · exact same.trans faultless
    · rw [strict] at lenient
      cases lenient

theorem tally_follow (feed : Feed) (line : Text) :
    (feed.follow line).1.tally =
      { feed.tally with
        faults := feed.tally.faults + (feed.follow line).2.toList.length } := by
  cases followed : feed.follows line with
  | true => rw [follow_of_follows followed]
  | false => rw [follow_of_not_follows followed]; rfl

theorem answer_accounts (feed : Feed) (line : Text) :
    (Message.announced? line = none ∧ (feed.answer line).1.tally = feed.tally ∧
        ∃ feedback, (feed.answer line).2 = .ok feedback ∧ feedback.diagnostic? = none) ∨
      ∃ diagnostic, Message.announced? line = some diagnostic ∧
        ((∃ file feedback, (feed.answer line).2 = .ok feedback ∧
            feedback.diagnostic? = some { diagnostic with file? := some file } ∧
            (∃ markup, feedback.rendering = .html markup) ∧
            (feed.answer line).1.tally =
              { feed.tally with diagnostics := feed.tally.diagnostics + 1 }) ∨
          ((feed.answer line).2 = .error (.missingFile diagnostic.message) ∧
            (feed.answer line).1.tally = feed.tally)) := by
  cases read : Message.announced? line with
  | none =>
      obtain ⟨feedback, answered, silent⟩ := feed.answer_of_not_announced read
      exact .inl ⟨rfl, by rw [answered]; rfl, feedback, by rw [answered], silent⟩
  | some diagnostic =>
      refine .inr ⟨diagnostic, rfl, ?_⟩
      rw [answer_of_announced read]
      rcases (feed.heard line).assign_cases diagnostic with
        ⟨file, -, assigned⟩ | ⟨file, -, -, assigned⟩ | ⟨-, -, assigned⟩
      · rw [assigned]
        exact .inl ⟨_, _, rfl, rfl, ⟨_, rfl⟩, rfl⟩
      · rw [assigned]
        exact .inl ⟨_, _, rfl, rfl, ⟨_, rfl⟩, rfl⟩
      · rw [assigned]
        exact .inr ⟨rfl, rfl⟩

theorem highest_answer (feed : Feed) (line : Text) :
    (feed.answer line).1.listener.highest =
      feed.listener.highest.max
        (Severity.maximum ((Message.announced? line).toList.map Diagnostic.severity)) := by
  rw [listener_answer, Listener.hear_snd, Listener.highest_noteAll]

theorem call_accounts (call : Call) :
    call.result.1.tally =
        { lines := call.before.tally.lines + 1
          diagnostics := call.before.tally.diagnostics + call.told?.toList.length
          faults := call.before.tally.faults + call.fault?.toList.length } ∧
      call.result.1.listener.highest =
        call.before.listener.highest.max
          (Severity.maximum (call.heard?.toList.map Diagnostic.severity)) := by
  rcases result_cases call with
    ⟨-, faultless, result⟩ | ⟨fault, -, -, followed, result⟩ | ⟨-, -, followed, result⟩
  · rw [Call.heard?, Call.told?, Call.lost?, faultless, result]
    exact ⟨rfl, (Severity.max_none _).symm⟩
  · rw [Call.heard?, Call.told?, Call.lost?, followed, result]
    refine ⟨?_, ?_⟩
    · simp only [countLine, tally_follow]
      rfl
    · simp only [countLine, listener_follow]
      exact (Severity.max_none _).symm
  · have highest := highest_answer (call.before.follow call.line).1.countLine call.line
    have listener : (call.before.follow call.line).1.countLine.listener = call.before.listener :=
      listener_follow _ _
    have tally : (call.before.follow call.line).1.countLine.tally =
        { call.before.tally with
          lines := call.before.tally.lines + 1
          faults := call.before.tally.faults +
            (call.before.follow call.line).2.toList.length } := by
      simp only [countLine, tally_follow]
    rw [listener] at highest
    rw [Call.heard?, Call.told?, Call.lost?, followed, result]
    rcases (call.before.follow call.line).1.countLine.answer_accounts call.line with
      ⟨silent, counted, feedback, answered, nothing⟩ |
        ⟨diagnostic, read, ⟨file, feedback, answered, told, -, counted⟩ | ⟨refused, counted⟩⟩
    · rw [highest, silent, counted, tally, answered]
      simp [nothing]
    · rw [highest, read, counted, tally, answered]
      simp [told]
    · rw [highest, read, counted, tally, refused]
      simp

theorem length_calls (feed : Feed) (lines : List (Text × LineKind)) :
    (feed.calls lines).length = lines.length := by
  induction lines generalizing feed with
  | nil => rfl
  | cons line lines ih => simp only [calls, List.length_cons, ih]

theorem answers_eq (feed : Feed) (lines : List (Text × LineKind)) :
    feed.answers lines = (feed.calls lines).map Call.result := by
  induction lines generalizing feed with
  | nil => rfl
  | cons line lines ih => simp only [answers, calls, List.map_cons, ih, Call.result]

theorem tally_of_calls (feed : Feed) (lines : List (Text × LineKind)) :
    (feed.after lines).tally =
      { lines := feed.tally.lines + lines.length
        diagnostics := feed.tally.diagnostics + ((feed.calls lines).filterMap Call.told?).length
        faults := feed.tally.faults + ((feed.calls lines).filterMap Call.fault?).length } := by
  simp only [List.filterMap_eq_flatMap_toList]
  induction lines generalizing feed with
  | nil => rfl
  | cons line lines ih =>
      obtain ⟨counted, -⟩ := call_accounts ⟨feed, line.1, line.2⟩
      rw [Call.result] at counted
      rw [after_cons, ih, counted]
      simp only [calls, List.flatMap_cons, List.length_append, List.length_cons, Nat.add_assoc,
        Nat.add_comm 1]

end Typeset.Feed
