import Typeset.Proofs.Feedback.Refusal
import Typeset.Proofs.Message.Severity

/-!
The two policies side by side.  A line that fits no nesting leaves no file open, and it stands
outside of error blocks; so to hear it changes neither the nesting nor the mode, and the feeds that
do and do not hear it stay abreast.
-/

namespace Typeset.Feed

variable {feed strict lenient : Feed} {line : Text} {kind : LineKind}

def nestingFault? (feed : Feed) (line : Text) (kind : LineKind) : Option NestingFault :=
  if feed.passesOver kind then none else (feed.follow line).2

theorem nestingFault?_eq_some_iff {fault : NestingFault} :
    feed.nestingFault? line kind = some fault ↔
      feed.passesOver kind = false ∧ (feed.follow line).2 = some fault := by
  simp [nestingFault?]

theorem listensTo_of_faultless (heard : feed.passesOver kind = false)
    (faultless : feed.nestingFault? line kind = none) : feed.listensTo line kind = true := by
  simp only [nestingFault?, heard, Bool.false_eq_true, if_false] at faultless
  simp [listensTo, heard, faultless]

theorem step_of_fault {fault : NestingFault} (strict : feed.options.policy = .strict)
    (faulty : feed.nestingFault? line kind = some fault) :
    feed.step line kind = ((feed.follow line).1.countLine, .error (.nesting fault)) := by
  obtain ⟨heard, found⟩ := nestingFault?_eq_some_iff.mp faulty
  rw [step_of_not_passesOver heard, found, strict]

theorem assign_effect (feed : Feed) (diagnostic : Diagnostic) :
    ((feed.assign diagnostic).1.nesting = feed.nesting ∨
        (feed.assign diagnostic).1.nesting = feed.nesting.current.2) ∧
      ∃ count, (feed.assign diagnostic).1.tally =
        { feed.tally with diagnostics := feed.tally.diagnostics + count } := by
  rcases feed.assign_cases diagnostic with
    ⟨file, -, assigned⟩ | ⟨file, -, -, assigned⟩ | ⟨-, -, assigned⟩
  · rw [assigned]
    exact ⟨.inl rfl, 1, rfl⟩
  · rw [assigned]
    exact ⟨.inr rfl, 1, rfl⟩
  · rw [assigned]
    exact ⟨.inr rfl, 0, rfl⟩

theorem answer_effect (feed : Feed) (line : Text) :
    ((feed.answer line).1.nesting = feed.nesting ∨
        (feed.answer line).1.nesting = feed.nesting.current.2) ∧
      ∃ count, (feed.answer line).1.tally =
        { feed.tally with diagnostics := feed.tally.diagnostics + count } := by
  cases read : Message.announced? line with
  | some diagnostic =>
      rw [answer_of_announced read]
      exact (feed.heard line).assign_effect diagnostic
  | none =>
      obtain ⟨feedback, answered, -⟩ := feed.answer_of_not_announced read
      rw [answered]
      exact ⟨.inl rfl, 0, rfl⟩

theorem assign_countLine (feed : Feed) (diagnostic : Diagnostic) :
    (feed.countLine.assign diagnostic).2 = (feed.assign diagnostic).2 := by
  have same : feed.countLine.currentFile? = feed.currentFile? := rfl
  rcases feed.assign_cases diagnostic with
    ⟨file, own, assigned⟩ | ⟨file, own, current, assigned⟩ | ⟨own, missing, assigned⟩
  · rw [assigned, assign_named own]
    rfl
  · rw [assigned, assign_current own (same.trans current)]
    rfl
  · rw [assigned, assign_missing own (same.trans missing)]

theorem answer_countLine (feed : Feed) (line : Text) :
    (feed.countLine.answer line).2 = (feed.answer line).2 := by
  have same : feed.countLine.listener.hear line = feed.listener.hear line := rfl
  rw [answer_eq, answer_eq, same]
  cases (feed.listener.hear line).1 with
  | message message =>
      cases message with
      | diagnostic diagnostic => exact (feed.heard line).assign_countLine diagnostic
      | headline text => rfl
      | separator => rfl
  | echoed => rfl
  | hidden => rfl

theorem follows_of_fault {fault : NestingFault} (faulty : (feed.follow line).2 = some fault) :
    feed.listener.mode = .normal ∧ Message.isErrorHeader (Text.trim line) = false := by
  cases followed : feed.follows line with
  | false =>
      rw [follow_of_not_follows followed] at faulty
      cases faulty
  | true =>
      simp only [follows, Listener.isInsideError, Bool.and_eq_true, Bool.not_eq_true',
        decide_eq_false_iff_not] at followed
      refine ⟨?_, followed.2⟩
      cases mode : feed.listener.mode with
      | normal => rfl
      | insideError => exact absurd mode followed.1

structure Abreast (strict lenient : Feed) : Prop where
  policy : lenient.options.policy = .lenient
  options : strict.options = { lenient.options with policy := .strict }
  nesting : strict.nesting = lenient.nesting
  mode : strict.listener.mode = lenient.listener.mode
  lines : strict.tally.lines = lenient.tally.lines
  faults : strict.tally.faults = lenient.tally.faults
  highest : strict.listener.highest.level ≤ lenient.listener.highest.level
  diagnostics : strict.tally.diagnostics ≤ lenient.tally.diagnostics

namespace Abreast

theorem start (options : FeedOptions) :
    (Feed.start { options with policy := .strict }).Abreast
      (.start { options with policy := .lenient }) :=
  ⟨rfl, rfl, rfl, rfl, rfl, rfl, Nat.le_refl _, Nat.le_refl _⟩

theorem countLine (abreast : strict.Abreast lenient) :
    strict.countLine.Abreast lenient.countLine :=
  { abreast with lines := congrArg (· + 1) abreast.lines }

theorem settled (abreast : strict.Abreast lenient) : strict.settled.Abreast lenient.settled :=
  { abreast with nesting := congrArg (fun nesting => nesting.current.2) abreast.nesting }

theorem passesOver (abreast : strict.Abreast lenient) (kind : LineKind) :
    strict.passesOver kind = lenient.passesOver kind := by
  rw [Feed.passesOver, Feed.passesOver, abreast.options]

theorem follow (abreast : strict.Abreast lenient) (line : Text) :
    (strict.follow line).1.Abreast (lenient.follow line).1 ∧
      (strict.follow line).2 = (lenient.follow line).2 := by
  have same : strict.follows line = lenient.follows line := by
    simp only [follows, Listener.isInsideError, abreast.mode]
  cases followed : lenient.follows line with
  | false =>
      rw [follow_of_not_follows followed, follow_of_not_follows (same.trans followed)]
      exact ⟨abreast, rfl⟩
  | true =>
      rw [follow_of_follows followed, follow_of_follows (same.trans followed), abreast.nesting]
      exact ⟨{ abreast with nesting := rfl, faults := congrArg (· + _) abreast.faults }, rfl⟩

theorem heard (abreast : strict.Abreast lenient) (line : Text) :
    (strict.heard line).Abreast (lenient.heard line) :=
  { abreast with
    mode := by
      simp only [Feed.heard, Listener.mode_hear, abreast.mode]
    highest := by
      simp only [Feed.heard, Listener.highest_hear]
      exact Severity.level_max_mono abreast.highest _ }

theorem report (abreast : strict.Abreast lenient) (diagnostic : Diagnostic) (file : Path) :
    (strict.report diagnostic file).1.Abreast (lenient.report diagnostic file).1 ∧
      (strict.report diagnostic file).2 = (lenient.report diagnostic file).2 := by
  refine ⟨{ abreast with diagnostics := Nat.succ_le_succ abreast.diagnostics }, ?_⟩
  simp only [Feed.report, template, abreast.options]

theorem assign (abreast : strict.Abreast lenient) (diagnostic : Diagnostic) :
    (strict.assign diagnostic).1.Abreast (lenient.assign diagnostic).1 ∧
      (strict.assign diagnostic).2 = (lenient.assign diagnostic).2 := by
  have same : strict.currentFile? = lenient.currentFile? := by
    simp only [currentFile?, abreast.nesting, abreast.options]
  rcases lenient.assign_cases diagnostic with
    ⟨file, own, assigned⟩ | ⟨file, own, current, assigned⟩ | ⟨own, missing, assigned⟩
  · obtain ⟨next, told⟩ := abreast.report diagnostic file
    rw [assigned, assign_named own]
    exact ⟨next, congrArg Except.ok told⟩
  · obtain ⟨next, told⟩ := abreast.settled.report diagnostic file
    rw [assigned, assign_current own (same.trans current)]
    exact ⟨next, congrArg Except.ok told⟩
  · rw [assigned, assign_missing own (same.trans missing)]
    exact ⟨abreast.settled, rfl⟩

theorem answer (abreast : strict.Abreast lenient) (line : Text) :
    (strict.answer line).1.Abreast (lenient.answer line).1 ∧
      (strict.answer line).2 = (lenient.answer line).2 := by
  -- the listeners may have heard different severities, but what they make of a line is in the mode
  have same : (strict.listener.hear line).1 = (lenient.listener.hear line).1 := by
    simp only [Listener.hear, Listener.isInsideError, abreast.mode]
    cases Message.ofLine? line <;> rfl
  have next := abreast.heard line
  rw [answer_eq, answer_eq, same]
  cases (lenient.listener.hear line).1 with
  | message message =>
      cases message with
      | diagnostic diagnostic => exact next.assign diagnostic
      | headline text => exact ⟨next, rfl⟩
      | separator => exact ⟨next, rfl⟩
  | echoed => exact ⟨next, rfl⟩
  | hidden => exact ⟨next, rfl⟩

/-- A line that stands outside of error blocks, and is heard by one feed alone while no file is
open, leaves the two abreast. -/
theorem answer_right (abreast : strict.Abreast lenient) (closed : lenient.nesting.files = .empty)
    (outside : lenient.listener.mode = .normal)
    (noHeader : Message.isErrorHeader (Text.trim line) = false) :
    strict.Abreast (lenient.answer line).1 := by
  obtain ⟨nesting, count, tally⟩ := lenient.answer_effect line
  -- with no file open there is no entry to forget
  have settled : lenient.nesting.current.2 = lenient.nesting := by
    simp only [Nesting.current, closed]
    rw [show OpenFiles.empty.settle = lenient.nesting.files from closed.symm]
  exact
    { policy := by rw [options_answer, abreast.policy]
      options := by rw [options_answer, abreast.options]
      nesting := by
        rw [settled, or_self] at nesting
        rw [nesting, abreast.nesting]
      mode := by
        rw [listener_answer, Listener.mode_hear, outside, Listener.modeAfterLine_normal noHeader,
          abreast.mode, outside]
      lines := by rw [tally, abreast.lines]
      faults := by rw [tally, abreast.faults]
      highest := by
        rw [listener_answer, Listener.highest_hear]
        exact abreast.highest.trans (Severity.level_le_max_left _ _)
      diagnostics := by
        rw [tally]
        exact abreast.diagnostics.trans (Nat.le_add_right _ _) }

theorem nestingFault?_eq (abreast : strict.Abreast lenient) (line : Text) (kind : LineKind) :
    strict.nestingFault? line kind = lenient.nestingFault? line kind := by
  simp only [Feed.nestingFault?, abreast.passesOver kind, (abreast.follow line).2]

theorem step_of_faultless (abreast : strict.Abreast lenient)
    (faultless : lenient.nestingFault? line kind = none) :
    (strict.step line kind).1.Abreast (lenient.step line kind).1 ∧
      (strict.step line kind).2 = (lenient.step line kind).2 := by
  have passedOver := abreast.passesOver kind
  cases passes : lenient.passesOver kind with
  | true =>
      rw [step_of_passesOver passes, step_of_passesOver (passedOver.trans passes)]
      exact ⟨abreast.countLine, rfl⟩
  | false =>
      have strictFaultless := (abreast.nestingFault?_eq line kind).trans faultless
      rw [step_of_listensTo (listensTo_of_faultless passes faultless),
        step_of_listensTo (listensTo_of_faultless (passedOver.trans passes) strictFaultless)]
      exact (abreast.follow line).1.countLine.answer line

theorem step_of_fault {fault : NestingFault} (abreast : strict.Abreast lenient)
    (unbroken : '\n' ∉ line) (faulty : lenient.nestingFault? line kind = some fault) :
    (strict.step line kind).1.Abreast (lenient.step line kind).1 ∧
      (strict.step line kind).2 = .error (.nesting .underflow) ∧
        (lenient.step line kind).2 = ((lenient.follow line).1.answer line).2 := by
  obtain ⟨heard, found⟩ := nestingFault?_eq_some_iff.mp faulty
  obtain ⟨rfl, closed⟩ := follow_faulty unbroken (Prod.ext rfl found)
  obtain ⟨outside, noHeader⟩ := follows_of_fault found
  have strictly : strict.options.policy = .strict := by rw [abreast.options]
  have listens : lenient.listensTo line kind = true := by simp [listensTo, heard, abreast.policy]
  rw [step_of_listensTo listens,
    Feed.step_of_fault strictly ((abreast.nestingFault?_eq line kind).trans faulty)]
  have mode : (lenient.follow line).1.countLine.listener.mode = .normal := by
    rw [← outside]
    exact congrArg Listener.mode (listener_follow lenient line)
  exact ⟨(abreast.follow line).1.countLine.answer_right closed mode noHeader, rfl,
    answer_countLine _ line⟩

theorem step (abreast : strict.Abreast lenient) (unbroken : '\n' ∉ line) (kind : LineKind) :
    (strict.step line kind).1.Abreast (lenient.step line kind).1 := by
  cases faulty : lenient.nestingFault? line kind with
  | none => exact (abreast.step_of_faultless faulty).1
  | some fault => exact (abreast.step_of_fault unbroken faulty).1

theorem after {lines : List (Text × LineKind)} (abreast : strict.Abreast lenient)
    (unbroken : ∀ line ∈ lines, '\n' ∉ line.1) :
    (strict.after lines).Abreast (lenient.after lines) := by
  induction lines generalizing strict lenient with
  | nil => exact abreast
  | cons line lines ih =>
      obtain ⟨first, others⟩ := List.forall_mem_cons.mp unbroken
      exact ih (abreast.step first line.2) others

end Abreast

/-- Whatever lines without line feeds a strict and a lenient feed with otherwise equal options are
given, they stay abreast: the same files are open, the same path is pending, and they agree on
whether they are in an error block and on how many lines and faults they counted.  The next line
fits no nesting for both or for neither.  If it fits they answer alike.  Otherwise the strict feed
refuses it for a stray closing parenthesis, and the lenient one says what it hears. -/
theorem policies_part_on_faults_only (options : FeedOptions) (lines : List (Text × LineKind))
    (unbroken : ∀ line ∈ lines, '\n' ∉ line.1) :
    let strict := (Feed.start { options with policy := .strict }).after lines
    let lenient := (Feed.start { options with policy := .lenient }).after lines
    strict.Abreast lenient ∧
      ∀ (line : Text) (kind : LineKind), '\n' ∉ line →
        strict.nestingFault? line kind = lenient.nestingFault? line kind ∧
          (lenient.nestingFault? line kind = none →
            (strict.step line kind).2 = (lenient.step line kind).2) ∧
          (lenient.nestingFault? line kind ≠ none →
            (strict.step line kind).2 = .error (.nesting .underflow) ∧
              (lenient.step line kind).2 = ((lenient.follow line).1.answer line).2) := by
  intro strict lenient
  have abreast : strict.Abreast lenient := (Abreast.start options).after unbroken
  refine ⟨abreast, fun line kind unbroken => ⟨abreast.nestingFault?_eq line kind, ?_, ?_⟩⟩
  · intro faultless
    exact (abreast.step_of_faultless faultless).2
  · intro faulty
    obtain ⟨fault, found⟩ := Option.ne_none_iff_exists'.mp faulty
    exact (abreast.step_of_fault unbroken found).2

/-- The strict feed does not hear the warning behind the first parenthesis.  Both go on with the
file that is opened then, until it is closed twice. -/
theorem policies_part_on_stray_closing :
    let lines : List (Text × LineKind) :=
      [("This is pdfTeX", .banner), (") LaTeX Warning: Empty.", .output), ("(./main.tex", .output)]
    let strict := (Feed.start { policy := .strict }).after lines
    let lenient := (Feed.start { policy := .lenient }).after lines
    strict.Abreast lenient ∧ strict.listener.highest ≠ lenient.listener.highest ∧
      (strict.step "Overfull box" .output).2 = (lenient.step "Overfull box" .output).2 ∧
      (strict.step "))" .output).2 = .error (.nesting .underflow) := by
  intro lines strict lenient
  obtain ⟨abreast, next⟩ := policies_part_on_faults_only {} lines (by decide)
  exact ⟨abreast, by decide, (next "Overfull box" .output (by decide)).2.1 (by decide),
    ((next "))" .output (by decide)).2.2 (by decide)).1⟩

end Typeset.Feed
