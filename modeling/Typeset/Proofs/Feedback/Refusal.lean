import Typeset.Proofs.Feedback.FirstFault
import Typeset.Proofs.Feedback.Step
import Typeset.Proofs.Nesting.Fault

/-!
Why a line is refused.  Under the strict policy a line is refused that fits no nesting, and under
either policy one whose message is about a file that nothing names.
-/

namespace Typeset.Feed

variable {feed next : Feed} {line : Text} {kind : LineKind} {fault : FeedFault}

theorem follow_faulty {fault : NestingFault} (unbroken : '\n' ∉ line)
    (faulty : feed.follow line = (next, some fault)) :
    fault = .underflow ∧ next.nesting.files = .empty := by
  cases followed : feed.follows line with
  | false =>
      rw [follow_of_not_follows followed] at faulty
      cases faulty
  | true =>
      rw [follow_of_follows followed, Prod.mk.injEq] at faulty
      obtain ⟨rfl, found⟩ := faulty
      exact Nesting.consume_faulty unbroken (Prod.ext rfl found)

theorem follow_countLine (feed : Feed) (line : Text) :
    feed.countLine.follow line = ((feed.follow line).1.countLine, (feed.follow line).2) := by
  have same : feed.countLine.follows line = feed.follows line := rfl
  cases followed : feed.follows line with
  | false => rw [follow_of_not_follows followed, follow_of_not_follows (same.trans followed)]
  | true =>
      rw [follow_of_follows followed, follow_of_follows (same.trans followed)]
      rfl

theorem step_of_not_passesOver (heard : feed.passesOver kind = false) :
    feed.step line kind =
      match (feed.follow line).2, feed.options.policy with
      | some fault, .strict => ((feed.follow line).1.countLine, .error (.nesting fault))
      | _, _ => (feed.follow line).1.countLine.answer line := by
  have passes : feed.countLine.passesOver kind = false := heard
  have policy : feed.countLine.options.policy = feed.options.policy := rfl
  rw [step, if_neg (by simp [passes]), follow_countLine, policy]
  cases (feed.follow line).2 <;> cases feed.options.policy <;> rfl

theorem currentFile?_eq_none_iff (feed : Feed) :
    feed.currentFile? = none ↔
      feed.options.defaultFile? = none ∧ ∀ path ∈ feed.nesting.files.paths, path = [] := by
  rw [currentFile?, Option.or_eq_none_iff, and_comm]
  refine and_congr_right fun _ => ?_
  simp [Nesting.current, OpenFiles.current?, OpenFiles.settle, OpenFiles.paths]

theorem answer_refuses_iff (feed : Feed) (line : Text) (fault : FeedFault) :
    refusal? (feed.answer line).2 = some fault ↔
      feed.currentFile? = none ∧ ∃ diagnostic, Message.announced? line = some diagnostic ∧
        diagnostic.file? = none ∧ fault = .missingFile diagnostic.message := by
  cases read : Message.announced? line with
  | none =>
      obtain ⟨feedback, answered, -⟩ := feed.answer_of_not_announced read
      simp [answered, refusal?]
  | some diagnostic =>
      have same : (feed.heard line).currentFile? = feed.currentFile? := rfl
      rw [answer_of_announced read, ← same]
      rcases (feed.heard line).assign_cases diagnostic with
        ⟨file, own, assigned⟩ | ⟨file, -, current, assigned⟩ | ⟨own, missing, assigned⟩
      · simp [assigned, refusal?, own]
      · simp [assigned, refusal?, current]
      · simp [assigned, refusal?, own, missing, eq_comm]

/-- Whether a line is listened to: it is not passed over, and it is not refused for its nesting. -/
def listensTo (feed : Feed) (line : Text) (kind : LineKind) : Bool :=
  !feed.passesOver kind &&
    ((feed.follow line).2.isNone || feed.options.policy = .lenient)

theorem listensTo_cases (feed : Feed) (line : Text) (kind : LineKind) :
    (feed.listensTo line kind = true ∧
        feed.step line kind = (feed.follow line).1.countLine.answer line) ∨
      (feed.listensTo line kind = false ∧
        feed.step line kind = (feed.countLine, .ok { rendering := .verbatim })) ∨
      (∃ fault, feed.listensTo line kind = false ∧ feed.options.policy = .strict ∧
        (feed.follow line).2 = some fault ∧
        feed.step line kind = ((feed.follow line).1.countLine, .error (.nesting fault))) := by
  have cases := feed.step_cases line kind
  rw [follow_countLine] at cases
  rcases cases with
    ⟨passed, stepped⟩ | ⟨fault, heard, strict, refused, stepped⟩ | ⟨heard, goesOn, stepped⟩
  · exact .inr (.inl ⟨by simp [listensTo, passed], stepped⟩)
  · have found : (feed.follow line).2 = some fault := refused
    exact .inr (.inr ⟨fault, by simp [listensTo, found, strict], strict, found, stepped⟩)
  · refine .inl ⟨?_, stepped⟩
    rcases goesOn with faultless | lenient
    · have none : (feed.follow line).2 = none := faultless
      simp [listensTo, heard, none]
    · simp [listensTo, heard, lenient]

theorem step_of_listensTo (listens : feed.listensTo line kind = true) :
    feed.step line kind = (feed.follow line).1.countLine.answer line := by
  rcases feed.listensTo_cases line kind with
    ⟨-, stepped⟩ | ⟨ignores, -⟩ | ⟨fault, ignores, -⟩
  · exact stepped
  · rw [listens] at ignores
    cases ignores
  · rw [listens] at ignores
    cases ignores

theorem step_missingFile_iff (feed : Feed) (line : Text) (kind : LineKind) (message : Text) :
    refusal? (feed.step line kind).2 = some (.missingFile message) ↔
      feed.listensTo line kind = true ∧ (feed.follow line).1.currentFile? = none ∧
        ∃ diagnostic, Message.announced? line = some diagnostic ∧ diagnostic.file? = none ∧
          message = diagnostic.message := by
  rcases feed.listensTo_cases line kind with
    ⟨listens, stepped⟩ | ⟨ignores, stepped⟩ | ⟨fault, ignores, -, -, stepped⟩
  · have same : (feed.follow line).1.countLine.currentFile? =
      (feed.follow line).1.currentFile? := rfl
    rw [stepped, answer_refuses_iff, same]
    simp [listens]
  · simp [stepped, ignores, refusal?]
  · simp [stepped, ignores, refusal?]

theorem step_refused (refused : refusal? (feed.step line kind).2 = some fault) :
    (∃ message, feed.options.defaultFile? = none ∧ fault = .missingFile message) ∨
      ∃ found, feed.options.policy = .strict ∧ (feed.follow line).2 = some found ∧
        fault = .nesting found := by
  rcases feed.listensTo_cases line kind with
    ⟨-, stepped⟩ | ⟨-, stepped⟩ | ⟨found, -, strict, faulty, stepped⟩
  · rw [stepped, answer_refuses_iff, currentFile?_eq_none_iff] at refused
    obtain ⟨⟨noDefault, -⟩, diagnostic, -, -, same⟩ := refused
    rw [← options_follow feed line]
    exact .inl ⟨diagnostic.message, noDefault, same⟩
  · rw [stepped] at refused
    cases refused
  · rw [stepped] at refused
    exact .inr ⟨found, strict, faulty, (Option.some.inj refused).symm⟩

def faults (feed : Feed) (lines : List (Text × LineKind)) : List FeedFault :=
  (feed.answers lines).filterMap fun answer => refusal? answer.2

theorem firstFault?_eq_head? (feed : Feed) (lines : List (Text × LineKind)) :
    feed.firstFault? lines = (feed.faults lines).head? := by
  rw [firstFault?, faults, List.head?_filterMap]

theorem mem_faults {lines : List (Text × LineKind)} (member : fault ∈ feed.faults lines) :
    ∃ result ∈ feed.answers lines, refusal? result.2 = some fault :=
  List.mem_filterMap.mp member

section Default

variable {default : Path} {lines : List (Text × LineKind)}

theorem faults_of_default (fallback : feed.options.defaultFile? = some default) :
    ∀ fault ∈ feed.faults lines, feed.options.policy = .strict ∧
      ((∀ line ∈ lines, '\n' ∉ line.1) → fault = .nesting .underflow) := by
  intro fault member
  obtain ⟨result, answered, refused⟩ := mem_faults member
  refine forall_mem_answers (fun next => next.options = feed.options)
    (fun answer => ∀ fault, refusal? answer = some fault → feed.options.policy = .strict ∧
      ((∀ line ∈ lines, '\n' ∉ line.1) → fault = .nesting .underflow))
    ?_ rfl result answered fault refused
  intro next same line among
  refine ⟨(options_step next line.1 line.2).trans same, fun fault refused => ?_⟩
  rcases step_refused refused with ⟨message, noDefault, -⟩ | ⟨found, strict, faulty, rfl⟩
  · rw [same, fallback] at noDefault
    cases noDefault
  · refine ⟨same ▸ strict, fun unbroken => ?_⟩
    rw [(follow_faulty (unbroken line among) (Prod.ext rfl faulty)).1]

theorem faults_eq_nil (fallback : feed.options.defaultFile? = some default)
    (lenient : feed.options.policy = .lenient) : feed.faults lines = [] := by
  rw [List.eq_nil_iff_forall_not_mem]
  intro fault member
  obtain ⟨strict, -⟩ := faults_of_default fallback fault member
  rw [lenient] at strict
  cases strict

end Default

end Typeset.Feed
