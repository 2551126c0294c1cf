import Typeset.Proofs.Feedback.Refusal
import Typeset.Proofs.Nesting.Forgetting

/-!
One diagnostic more.  To say which file it is about, the current file is asked for, and so entries
without a path may be forgotten.  The lines behind it get the answers they would have got, as long
as none closes such an entry.
-/

namespace Typeset

namespace Feed

variable {plain asked : Feed} {line : Text} {kind : LineKind}

structure Forgets (plain asked : Feed) : Prop where
  options : asked.options = plain.options
  nesting : plain.nesting.Forgets asked.nesting
  listener : asked.listener = plain.listener

def closedBy (feed : Feed) (line : Text) (kind : LineKind) : List Path :=
  if feed.passesOver kind || !feed.follows line then [] else feed.nesting.closedBy line

namespace Forgets

theorem assigned (feed : Feed) (diagnostic : Diagnostic) :
    feed.Forgets (feed.assign diagnostic).1 := by
  have settled : feed.nesting.Forgets feed.nesting.current.2 := (Nesting.Forgets.refl _).current_right
  rcases feed.assign_cases diagnostic with
    ⟨file, -, assigned⟩ | ⟨file, -, -, assigned⟩ | ⟨-, -, assigned⟩
  · rw [assigned]
    exact ⟨rfl, .refl _, rfl⟩
  · rw [assigned]
    exact ⟨rfl, settled, rfl⟩
  · rw [assigned]
    exact ⟨rfl, settled, rfl⟩

theorem countLine (forgets : plain.Forgets asked) : plain.countLine.Forgets asked.countLine :=
  ⟨forgets.options, forgets.nesting, forgets.listener⟩

theorem settled (forgets : plain.Forgets asked) : plain.settled.Forgets asked.settled :=
  { forgets with nesting := forgets.nesting.current.2 }

theorem heard (forgets : plain.Forgets asked) (line : Text) :
    (plain.heard line).Forgets (asked.heard line) :=
  { forgets with listener := congrArg (fun listener => (listener.hear line).2) forgets.listener }

theorem report (forgets : plain.Forgets asked) (diagnostic : Diagnostic) (file : Path) :
    (asked.report diagnostic file).2 = (plain.report diagnostic file).2 ∧
      (plain.report diagnostic file).1.Forgets (asked.report diagnostic file).1 := by
  refine ⟨?_, forgets.options, forgets.nesting, forgets.listener⟩
  simp only [Feed.report, template, forgets.options]

theorem assign (forgets : plain.Forgets asked) (diagnostic : Diagnostic) :
    (asked.assign diagnostic).2 = (plain.assign diagnostic).2 ∧
      (plain.assign diagnostic).1.Forgets (asked.assign diagnostic).1 := by
  have same : asked.currentFile? = plain.currentFile? := by
    simp only [currentFile?, forgets.nesting.current.1, forgets.options]
  rcases plain.assign_cases diagnostic with
    ⟨file, own, assigned⟩ | ⟨file, own, current, assigned⟩ | ⟨own, missing, assigned⟩
  · obtain ⟨told, next⟩ := forgets.report diagnostic file
    rw [assigned, assign_named own]
    exact ⟨congrArg Except.ok told, next⟩
  · obtain ⟨told, next⟩ := forgets.settled.report diagnostic file
    rw [assigned, assign_current own (same.trans current)]
    exact ⟨congrArg Except.ok told, next⟩
  · rw [assigned, assign_missing own (same.trans missing)]
    exact ⟨rfl, forgets.settled⟩

theorem answer (forgets : plain.Forgets asked) (line : Text) :
    (asked.answer line).2 = (plain.answer line).2 ∧
      (plain.answer line).1.Forgets (asked.answer line).1 := by
  have next := forgets.heard line
  rw [answer_eq, answer_eq, forgets.listener]
  cases (plain.listener.hear line).1 with
  | message message =>
      cases message with
      | diagnostic diagnostic => exact next.assign diagnostic
      | headline text => exact ⟨rfl, next⟩
      | separator => exact ⟨rfl, next⟩
  | echoed => exact ⟨rfl, next⟩
  | hidden => exact ⟨rfl, next⟩

theorem follow (forgets : plain.Forgets asked)
    (spared : plain.follows line = true →
      plain.nesting.closedBy line <+: asked.nesting.files.innermostFirst) :
    (asked.follow line).2 = (plain.follow line).2 ∧
      (plain.follow line).1.Forgets (asked.follow line).1 := by
  have same : asked.follows line = plain.follows line := by
    rw [follows, follows, forgets.listener]
  cases followed : plain.follows line with
  | false =>
      rw [follow_of_not_follows followed, follow_of_not_follows (same.trans followed)]
      exact ⟨rfl, forgets⟩
  | true =>
      obtain ⟨fault, next⟩ := forgets.nesting.consume (spared followed)
      rw [follow_of_follows followed, follow_of_follows (same.trans followed)]
      exact ⟨fault, forgets.options, next, forgets.listener⟩

theorem step (forgets : plain.Forgets asked)
    (spared : plain.closedBy line kind <+: asked.nesting.files.innermostFirst) :
    (asked.step line kind).2 = (plain.step line kind).2 ∧
      (plain.step line kind).1.Forgets (asked.step line kind).1 := by
  have passed : asked.passesOver kind = plain.passesOver kind := by
    rw [passesOver, passesOver, forgets.options]
  cases passes : plain.passesOver kind with
  | true =>
      rw [step_of_passesOver passes, step_of_passesOver (passed.trans passes)]
      exact ⟨rfl, forgets.countLine⟩
  | false =>
      have followedSpared : plain.follows line = true →
          plain.nesting.closedBy line <+: asked.nesting.files.innermostFirst := by
        intro followed
        simpa [Feed.closedBy, passes, followed] using spared
      obtain ⟨same, next⟩ := forgets.follow followedSpared
      rw [step_of_not_passesOver passes, step_of_not_passesOver (passed.trans passes), same,
        forgets.options]
      cases (plain.follow line).2 with
      | none => exact next.countLine.answer line
      | some fault =>
          cases plain.options.policy with
          | strict => exact ⟨rfl, next.countLine⟩
          | lenient => exact next.countLine.answer line

end Forgets

/-- What a line closes in the first feed lies, each time, innermost in the second: no entry is closed
that the second has forgotten. -/
def SparesForgotten : Feed → Feed → List (Text × LineKind) → Prop
  | _, _, [] => True
  | plain, asked, (line, kind) :: lines =>
      plain.closedBy line kind <+: asked.nesting.files.innermostFirst ∧
        (plain.step line kind).1.SparesForgotten (asked.step line kind).1 lines

instance decidableSparesForgotten :
    (plain asked : Feed) → (lines : List (Text × LineKind)) →
      Decidable (plain.SparesForgotten asked lines)
  | _, _, [] => .isTrue trivial
  | plain, asked, (line, kind) :: lines =>
      have := decidableSparesForgotten (plain.step line kind).1 (asked.step line kind).1 lines
      inferInstanceAs (Decidable (_ ∧ _))

theorem Forgets.answers (forgets : plain.Forgets asked) {lines : List (Text × LineKind)}
    (spared : plain.SparesForgotten asked lines) :
    (asked.answers lines).map Prod.snd = (plain.answers lines).map Prod.snd := by
  induction lines generalizing plain asked with
  | nil => rfl
  | cons line lines ih =>
      obtain ⟨now, later⟩ := spared
      obtain ⟨same, next⟩ := forgets.step now
      simp only [Feed.answers, List.map_cons, same, ih next later]

end Feed

/-- Under either rule, asking for the current file in between changes no reply to the calls of a
schedule, and one diagnostic more changes no answer to the lines behind it, as long as nothing closes
an entry without a path that has been forgotten for being asked. -/
theorem questions_change_nothing :
    (∀ (rule : NestingRule) (schedule : List (Option Nesting.Call)),
      (Nesting.start rule).SparesForgotten (.start rule) schedule →
        (Nesting.start rule).repliesAmid schedule =
          (Nesting.start rule).replies schedule.reduceOption) ∧
      ∀ (feed : Feed) (diagnostic : Diagnostic) (lines : List (Text × LineKind)),
        feed.SparesForgotten (feed.assign diagnostic).1 lines →
          ((feed.assign diagnostic).1.answers lines).map Prod.snd =
            (feed.answers lines).map Prod.snd := by
  constructor
  · intro rule schedule spared
    exact (Nesting.Forgets.refl _).repliesAmid spared
  · intro feed diagnostic lines spared
    exact (Feed.Forgets.assigned feed diagnostic).answers spared

/-- Behind an entry without a path that is then forgotten, a file is opened and closed as ever. -/
theorem file_behind_forgotten_entry_is_closed :
    let schedule : List (Option Nesting.Call) :=
      [some (.consume "(./main.tex"), some (.consume "Package foo ("), none,
        some (.consume "(./part.tex"), some (.consume ")"), some .current]
    let feed := (Feed.start {}).after [("(./main.tex", .output), ("Package foo (", .output)]
    let diagnostic : Diagnostic := { message := "Empty.", severity := .warning, kind := .warning }
    let lines : List (Text × LineKind) :=
      [("(./part.tex", .output), (")", .output), ("LaTeX Warning: Full.", .output)]
    (Nesting.start .fragment).repliesAmid schedule =
        (Nesting.start .fragment).replies schedule.reduceOption ∧
      ((feed.assign diagnostic).1.answers lines).map Prod.snd =
        (feed.answers lines).map Prod.snd := by
  intro schedule feed diagnostic lines
  obtain ⟨nesting, pipeline⟩ := questions_change_nothing
  exact ⟨nesting .fragment schedule (by decide), pipeline feed diagnostic lines (by decide)⟩

/-- The entry that ends a line behind a parenthesis is forgotten when the current file is asked for,
and the parenthesis that belongs to it then closes the file around it. -/
theorem forgotten_entry_is_missed :
    let schedule : List (Option Nesting.Call) :=
      [some (.consume "(./main.tex"), some (.consume "Package foo ("), none, some (.consume ")"),
        some .current]
    (Nesting.start .fragment).repliesAmid schedule ≠
      (Nesting.start .fragment).replies schedule.reduceOption := by
  decide

end Typeset
