import Typeset.Feedback.Feed
import Typeset.Proofs.Message.Heard
import Typeset.Proofs.Text.LineEnds

/-!
What one step does to each part of a feed.  A line is passed over, refused, or followed and then
answered; following changes the nesting and counts faults, answering changes the listener and at
most forgets entries without a path.
-/

namespace Typeset.Feed

variable {feed : Feed} {line : Text} {kind : LineKind}

theorem step_cases (feed : Feed) (line : Text) (kind : LineKind) :
    (feed.passesOver kind = true ∧
        feed.step line kind = (feed.countLine, .ok { rendering := .verbatim })) ∨
      (∃ fault, feed.passesOver kind = false ∧ feed.options.policy = .strict ∧
        (feed.countLine.follow line).2 = some fault ∧
        feed.step line kind = ((feed.countLine.follow line).1, .error (.nesting fault))) ∨
      (feed.passesOver kind = false ∧
        ((feed.countLine.follow line).2 = none ∨ feed.options.policy = .lenient) ∧
        feed.step line kind = (feed.countLine.follow line).1.answer line) := by
  have same : feed.countLine.passesOver kind = feed.passesOver kind := rfl
  have policySame : feed.countLine.options.policy = feed.options.policy := rfl
  unfold step
  simp only [same, policySame]
  cases passes : feed.passesOver kind with
  | true => exact .inl ⟨rfl, rfl⟩
  | false =>
      cases followed : feed.countLine.follow line with
      | mk next fault? =>
          cases fault? with
          | none => exact .inr (.inr ⟨rfl, .inl rfl, rfl⟩)
          | some fault =>
              cases feed.options.policy with
              | strict => exact .inr (.inl ⟨fault, rfl, rfl, rfl, rfl⟩)
              | lenient => exact .inr (.inr ⟨rfl, .inr rfl, rfl⟩)

theorem step_of_passesOver (passes : feed.passesOver kind = true) (line : Text) :
    feed.step line kind = (feed.countLine, .ok { rendering := .verbatim }) := by
  rcases feed.step_cases line kind with
    ⟨-, stepped⟩ | ⟨fault, heard, -⟩ | ⟨heard, -⟩
  · exact stepped
  · rw [passes] at heard
    cases heard
  · rw [passes] at heard
    cases heard

theorem passesOver_eq (unraw : feed.options.raw = false) :
    feed.passesOver kind = decide (kind = .banner) := by
  simp [passesOver, unraw]

theorem kind_of_not_passesOver (heard : feed.passesOver kind = false) : kind = .output := by
  cases kind with
  | output => rfl
  | banner => simp [passesOver] at heard

theorem follow_of_not_follows (ignored : feed.follows line = false) :
    feed.follow line = (feed, none) := by
  simp [follow, ignored]

theorem follow_of_follows (followed : feed.follows line = true) :
    feed.follow line =
      ({ feed with
          nesting := (feed.nesting.consume line).1
          tally.faults := feed.tally.faults + (feed.nesting.consume line).2.toList.length },
        (feed.nesting.consume line).2) := by
  rw [follow, if_pos followed]
  cases feed.nesting.consume line with
  | mk next fault? => cases fault? <;> rfl

theorem faults_follow (feed : Feed) (line : Text) :
    (feed.follow line).1.tally.faults =
      feed.tally.faults + (feed.follow line).2.toList.length := by
  cases followed : feed.follows line with
  | true => rw [follow_of_follows followed]
  | false => rw [follow_of_not_follows followed, Option.toList_none, List.length_nil, Nat.add_zero]

@[simp] theorem options_follow (feed : Feed) (line : Text) :
    (feed.follow line).1.options = feed.options := by
  cases followed : feed.follows line with
  | true => rw [follow_of_follows followed]
  | false => rw [follow_of_not_follows followed]

theorem listener_follow (feed : Feed) (line : Text) :
    (feed.follow line).1.listener = feed.listener := by
  cases followed : feed.follows line with
  | true => rw [follow_of_follows followed]
  | false => rw [follow_of_not_follows followed]

def settled (feed : Feed) : Feed :=
  { feed with nesting := feed.nesting.current.2 }

def currentFile? (feed : Feed) : Option Path :=
  feed.nesting.current.1.or feed.options.defaultFile?

variable {diagnostic : Diagnostic} {file : Path}

theorem assign_named (own : diagnostic.file? = some file) :
    feed.assign diagnostic =
      ((feed.report diagnostic file).1, .ok (feed.report diagnostic file).2) := by
  simp only [assign, own]

theorem assign_current (own : diagnostic.file? = none) (current : feed.currentFile? = some file) :
    feed.assign diagnostic =
      ((feed.settled.report diagnostic file).1,
        .ok (feed.settled.report diagnostic file).2) := by
  rw [currentFile?] at current
  simp only [assign, own, current, settled]

theorem assign_missing (own : diagnostic.file? = none) (missing : feed.currentFile? = none) :
    feed.assign diagnostic = (feed.settled, .error (.missingFile diagnostic.message)) := by
  rw [currentFile?] at missing
  simp only [assign, own, missing, settled]

theorem assign_cases (feed : Feed) (diagnostic : Diagnostic) :
    (∃ file, diagnostic.file? = some file ∧ feed.assign diagnostic =
        ((feed.report diagnostic file).1, .ok (feed.report diagnostic file).2)) ∨
      (∃ file, diagnostic.file? = none ∧ feed.currentFile? = some file ∧ feed.assign diagnostic =
        ((feed.settled.report diagnostic file).1,
          .ok (feed.settled.report diagnostic file).2)) ∨
      (diagnostic.file? = none ∧ feed.currentFile? = none ∧
        feed.assign diagnostic = (feed.settled, .error (.missingFile diagnostic.message))) := by
  cases own : diagnostic.file? with
  | some file => exact .inl ⟨file, rfl, assign_named own⟩
  | none =>
      cases current : feed.currentFile? with
      | some file => exact .inr (.inl ⟨file, rfl, rfl, assign_current own current⟩)
      | none => exact .inr (.inr ⟨rfl, rfl, assign_missing own current⟩)

def heard (feed : Feed) (line : Text) : Feed :=
  { feed with listener := (feed.listener.hear line).2 }

theorem answer_eq (feed : Feed) (line : Text) :
    feed.answer line =
      match (feed.listener.hear line).1 with
      | .message (.diagnostic diagnostic) => (feed.heard line).assign diagnostic
      | .message (.headline text) =>
          (feed.heard line, .ok { rendering := .html (Rendering.heading text) })
      | .message .separator => (feed.heard line, .ok { rendering := .html Rendering.rule })
      | .echoed => (feed.heard line, .ok { rendering := .verbatim })
      | .hidden => (feed.heard line, .ok { rendering := .empty }) := rfl

theorem answer_of_announced {diagnostic : Diagnostic}
    (read : Message.announced? line = some diagnostic) :
    feed.answer line = (feed.heard line).assign diagnostic := by
  simp only [answer, heard, Listener.hear_of_announced _ read]

theorem answer_of_not_announced (feed : Feed) (read : Message.announced? line = none) :
    ∃ feedback, feed.answer line = (feed.heard line, .ok feedback) ∧
      feedback.diagnostic? = none := by
  obtain ⟨heard, hears, noDiagnostic⟩ := Listener.hear_of_not_announced feed.listener read
  simp only [answer, Feed.heard, hears]
  cases heard with
  | message message =>
      cases message with
      | diagnostic diagnostic => exact absurd rfl (noDiagnostic diagnostic)
      | headline text => exact ⟨_, rfl, rfl⟩
      | separator => exact ⟨_, rfl, rfl⟩
  | echoed => exact ⟨_, rfl, rfl⟩
  | hidden => exact ⟨_, rfl, rfl⟩

theorem assign_keeps (feed : Feed) (diagnostic : Diagnostic) :
    (feed.assign diagnostic).1.options = feed.options ∧
      (feed.assign diagnostic).1.listener = feed.listener := by
  rcases feed.assign_cases diagnostic with
    ⟨file, -, assigned⟩ | ⟨file, -, -, assigned⟩ | ⟨-, -, assigned⟩
  · rw [assigned]
    exact ⟨rfl, rfl⟩
  · rw [assigned]
    exact ⟨rfl, rfl⟩
  · rw [assigned]
    exact ⟨rfl, rfl⟩

theorem answer_keeps (feed : Feed) (line : Text) :
    (feed.answer line).1.options = feed.options ∧
      (feed.answer line).1.listener = (feed.listener.hear line).2 := by
  cases read : Message.announced? line with
  | some diagnostic =>
      rw [answer_of_announced read]
      exact (feed.heard line).assign_keeps diagnostic
  | none =>
      obtain ⟨feedback, answered, -⟩ := feed.answer_of_not_announced read
      rw [answered]
      exact ⟨rfl, rfl⟩

@[simp] theorem options_answer (feed : Feed) (line : Text) :
    (feed.answer line).1.options = feed.options :=
  (feed.answer_keeps line).1

@[simp] theorem listener_answer (feed : Feed) (line : Text) :
    (feed.answer line).1.listener = (feed.listener.hear line).2 :=
  (feed.answer_keeps line).2

@[simp] theorem options_step (feed : Feed) (line : Text) (kind : LineKind) :
    (feed.step line kind).1.options = feed.options := by
  rcases feed.step_cases line kind with
    ⟨-, stepped⟩ | ⟨fault, -, -, -, stepped⟩ | ⟨-, -, stepped⟩
  · rw [stepped]
    rfl
  · rw [stepped]
    exact options_follow feed.countLine line
  · rw [stepped, options_answer, options_follow]
    rfl

/-! Carriage returns at the end of a line do not count. -/

variable {text : Text}

end Typeset.Feed
