import Typeset.Proofs.Feedback.Refusal
import Typeset.Proofs.Markup
import Typeset.Proofs.Text.Ends

/-!
What a reader gets back from the markup of a line.  The parts of a fragment are escaped, so they can
hold none of the marks around them, and each is read back from where the marks are.
-/

namespace Typeset

open Markup (EntityTable)

inductive Fragment where
  | rule
  | heading (text : Text)
  | paragraph (target location message : Text)
deriving DecidableEq, Repr

namespace Fragment

/-- The markup of a fragment, up to how the texts in it are written. -/
def WrittenAs : Fragment → Text → Prop
  | rule, markup => markup = "<hr/>"
  | heading text, markup =>
      ∃ title, EntityTable.running.Written text title ∧ markup = "<h4>" ++ title ++ "…</h4>"
  | paragraph target location message, markup =>
      ∃ reference label body,
        EntityTable.quoted.Written target reference ∧ EntityTable.running.Written location label ∧
          EntityTable.running.Written message body ∧
          markup = "<p><a href=\"" ++ reference ++ "\">" ++ label ++ "</a> " ++ body ++ "</p>"

def about (template : Text) (file : Path) (diagnostic : Diagnostic) : Fragment :=
  .paragraph (Link.target template file diagnostic.line?)
    (Rendering.location file diagnostic.line?) diagnostic.message

variable {markup : Text}

theorem writtenAs_rule : rule.WrittenAs Rendering.rule := rfl

theorem writtenAs_heading (text : Text) : (heading text).WrittenAs (Rendering.heading text) := by
  refine ⟨EntityTable.running.write text, .write text, ?_⟩
  unfold Rendering.heading
  simp only [Markup.escape_eq]

theorem writtenAs_about (template : Text) (file : Path) (diagnostic : Diagnostic) :
    (about template file diagnostic).WrittenAs
      (Rendering.paragraph template file diagnostic.line? diagnostic.message) := by
  unfold about WrittenAs
  refine ⟨EntityTable.quoted.write (Link.target template file diagnostic.line?),
    EntityTable.running.write (Rendering.location file diagnostic.line?),
    EntityTable.running.write diagnostic.message, .write _, .write _, .write _, ?_⟩
  unfold Rendering.paragraph
  simp only [Markup.escapeAttribute_eq, Markup.escape_eq]

theorem cut_unique (mark : Char) {first second firstRest secondRest : Text}
    (same : first ++ mark :: firstRest = second ++ mark :: secondRest)
    (firstFree : mark ∉ first) (secondFree : mark ∉ second) :
    first = second ∧ firstRest = secondRest := by
  have stops (rest : Text) : Text.Stops (· ≠ mark) (mark :: rest) := .cons (by simp) rest
  have passes {part : Text} (free : mark ∉ part) : ∀ c ∈ part, decide (c ≠ mark) = true := by
    intro c member
    simpa using ne_of_mem_of_not_mem member free
  obtain ⟨rfl, rest⟩ :=
    Text.run_unique same (passes firstFree) (passes secondFree) (stops _) (stops _)
  exact ⟨rfl, (List.cons.inj rest).2⟩

theorem less_not_mem {text written : Text} (isWritten : EntityTable.running.Written text written) :
    '<' ∉ written :=
  isWritten.noMarkup '<' (by decide) (by decide)

theorem heading_unique {first second : Text} (isFirst : (heading first).WrittenAs markup)
    (isSecond : (heading second).WrittenAs markup) : first = second := by
  obtain ⟨firstTitle, firstWritten, rfl⟩ := isFirst
  obtain ⟨secondTitle, secondWritten, same⟩ := isSecond
  rw [List.append_assoc, List.append_assoc] at same
  -- the dots are no mark, so they are cut off only after the closing tag is found
  have inside : (firstTitle ++ ['…']) ++ '<' :: "/h4>".toList =
      (secondTitle ++ ['…']) ++ '<' :: "/h4>".toList := by
    simpa using List.append_cancel_left same
  obtain ⟨titles, -⟩ := cut_unique '<' inside (by simp [less_not_mem firstWritten])
    (by simp [less_not_mem secondWritten])
  obtain rfl := List.append_cancel_right titles
  exact firstWritten.unique secondWritten

theorem paragraph_unique {firstTarget firstLocation firstMessage secondTarget secondLocation
    secondMessage : Text}
    (isFirst : (paragraph firstTarget firstLocation firstMessage).WrittenAs markup)
    (isSecond : (paragraph secondTarget secondLocation secondMessage).WrittenAs markup) :
    paragraph firstTarget firstLocation firstMessage =
      paragraph secondTarget secondLocation secondMessage := by
  obtain ⟨firstReference, firstLabel, firstBody, firstLinks, firstPlaces, firstTells, rfl⟩ :=
    isFirst
  obtain ⟨secondReference, secondLabel, secondBody, secondLinks, secondPlaces, secondTells, same⟩ :=
    isSecond
  simp only [List.append_assoc] at same
  -- the target ends at the closing quote, the label at the next tag, and the body is what remains
  obtain ⟨rfl, behindLink⟩ := cut_unique '"' (List.append_cancel_left same)
    (firstLinks.noMarkup _ (by decide) (by decide))
    (secondLinks.noMarkup _ (by decide) (by decide))
  obtain ⟨rfl, behindLabel⟩ := cut_unique '<' (List.cons.inj behindLink).2
    (less_not_mem firstPlaces) (less_not_mem secondPlaces)
  obtain rfl := List.append_cancel_right (List.append_cancel_left behindLabel)
  rw [firstLinks.unique secondLinks, firstPlaces.unique secondPlaces,
    firstTells.unique secondTells]

def tag : Fragment → Text
  | rule => ['<', 'h', 'r']
  | heading _ => ['<', 'h', '4']
  | paragraph _ _ _ => ['<', 'p', '>']

theorem tag_of_writtenAs {fragment : Fragment} (isWritten : fragment.WrittenAs markup) :
    markup.take 3 = fragment.tag := by
  cases fragment with
  | rule =>
      cases isWritten
      rfl
  | heading text =>
      obtain ⟨title, -, rfl⟩ := isWritten
      rfl
  | paragraph target location message =>
      obtain ⟨reference, label, body, -, -, -, rfl⟩ := isWritten
      rfl

theorem writtenAs_unique {first second : Fragment} (isFirst : first.WrittenAs markup)
    (isSecond : second.WrittenAs markup) : first = second := by
  have tags : first.tag = second.tag :=
    (tag_of_writtenAs isFirst).symm.trans (tag_of_writtenAs isSecond)
  cases first with
  | rule =>
      cases second with
      | rule => rfl
      | heading text => cases tags
      | paragraph target location message => cases tags
  | heading text =>
      cases second with
      | rule => cases tags
      | heading other => rw [heading_unique isFirst isSecond]
      | paragraph target location message => cases tags
  | paragraph target location message =>
      cases second with
      | rule => cases tags
      | heading text => cases tags
      | paragraph => exact paragraph_unique isFirst isSecond

end Fragment

namespace Feed

variable {feed : Feed} {line : Text} {kind : LineKind} {feedback : Feedback}
  {diagnostic : Diagnostic}

def feedbackOn (feed : Feed) (diagnostic : Diagnostic) (file : Path) : Feedback where
  rendering := .html
    (Rendering.paragraph feed.template file diagnostic.line? diagnostic.message)
  diagnostic? := some { diagnostic with file? := some file }

theorem assign_ok (assigned : (feed.assign diagnostic).2 = .ok feedback) :
    ∃ file, feedback = feed.feedbackOn diagnostic file := by
  rcases feed.assign_cases diagnostic with
    ⟨file, -, same⟩ | ⟨file, -, -, same⟩ | ⟨-, -, same⟩
  · rw [same] at assigned
    exact ⟨_, (Except.ok.inj assigned).symm⟩
  · rw [same] at assigned
    exact ⟨_, (Except.ok.inj assigned).symm⟩
  · rw [same] at assigned
    cases assigned

theorem answer_ok (answered : (feed.answer line).2 = .ok feedback) :
    feedback = { rendering := .verbatim } ∨ feedback = { rendering := .empty } ∨
      (Message.ofLine? line = some .separator ∧
        feedback = { rendering := .html Rendering.rule }) ∨
      (∃ text, Message.ofLine? line = some (.headline text) ∧
        feedback = { rendering := .html (Rendering.heading text) }) ∨
      ∃ diagnostic file, Message.ofLine? line = some (.diagnostic diagnostic) ∧
        feedback = feed.feedbackOn diagnostic file := by
  rw [answer_eq, Listener.hear] at answered
  cases read : Message.ofLine? line with
  | none =>
      rw [read] at answered
      cases inside : feed.listener.isInsideError with
      | true =>
          rw [inside] at answered
          exact .inl (Except.ok.inj answered).symm
      | false =>
          rw [inside] at answered
          exact .inr (.inl (Except.ok.inj answered).symm)
  | some message =>
      rw [read] at answered
      cases message with
      | diagnostic diagnostic =>
          obtain ⟨file, same⟩ := assign_ok answered
          exact .inr (.inr (.inr (.inr ⟨diagnostic, file, rfl, same⟩)))
      | headline text =>
          exact .inr (.inr (.inr (.inl ⟨text, rfl, (Except.ok.inj answered).symm⟩)))
      | separator => exact .inr (.inr (.inl ⟨rfl, (Except.ok.inj answered).symm⟩))

inductive Tells (feed : Feed) (line : Text) (feedback : Feedback) : Fragment → Prop
  | rule (read : Message.ofLine? line = some .separator)
      (noDiagnostic : feedback.diagnostic? = none) :
      Tells feed line feedback .rule
  | heading (text : Text) (read : Message.ofLine? line = some (.headline text))
      (noDiagnostic : feedback.diagnostic? = none) :
      Tells feed line feedback (.heading text)
  | about (diagnostic : Diagnostic) (file : Path)
      (read : Message.ofLine? line = some (.diagnostic diagnostic))
      (reported : feedback.diagnostic? = some { diagnostic with file? := some file }) :
      Tells feed line feedback (.about feed.template file diagnostic)

theorem step_ok (answered : (feed.step line kind).2 = .ok feedback) :
    (feedback.diagnostic? = none ∧ ∀ markup, feedback.rendering ≠ .html markup) ∨
      ∃ fragment markup, feedback.rendering = .html markup ∧ fragment.WrittenAs markup ∧
        feed.Tells line feedback fragment := by
  rcases feed.listensTo_cases line kind with
    ⟨-, stepped⟩ | ⟨-, stepped⟩ | ⟨fault, -, -, -, stepped⟩
  · rw [stepped] at answered
    rcases answer_ok answered with
      rfl | rfl | ⟨read, rfl⟩ | ⟨text, read, rfl⟩ | ⟨diagnostic, file, read, rfl⟩
    · exact .inl ⟨rfl, nofun⟩
    · exact .inl ⟨rfl, nofun⟩
    · exact .inr ⟨.rule, _, rfl, Fragment.writtenAs_rule, .rule read rfl⟩
    · exact .inr ⟨.heading text, _, rfl, Fragment.writtenAs_heading text, .heading text read rfl⟩
    · have template : (feed.follow line).1.countLine.template = feed.template :=
        congrArg (fun options => options.linkTemplate?.getD Link.defaultTemplate)
          (options_follow feed line)
      rw [feedbackOn, template]
      exact .inr ⟨.about feed.template file diagnostic, _, rfl, Fragment.writtenAs_about _ _ _,
        .about diagnostic file read rfl⟩
  · rw [stepped] at answered
    cases answered
    exact .inl ⟨rfl, nofun⟩
  · rw [stepped] at answered
    cases answered

theorem Tells.eq_about {fragment : Fragment} {reported : Diagnostic}
    (tells : feed.Tells line feedback fragment) (reports : feedback.diagnostic? = some reported) :
    ∃ file, reported.file? = some file ∧ fragment = .about feed.template file reported := by
  cases tells with
  | rule read noDiagnostic =>
      rw [reports] at noDiagnostic
      cases noDiagnostic
  | heading text read noDiagnostic =>
      rw [reports] at noDiagnostic
      cases noDiagnostic
  | about diagnostic file read same =>
      rw [reports] at same
      cases same
      exact ⟨file, rfl, rfl⟩

/-- Whatever a line and the options hold, the markup of its feedback is that of one fragment only: a
rule, a heading with the headline, or a paragraph with the link, the place and the message of the
diagnostic.  The texts in it hold no markup, and reading back their entities gives what is told.  So
diagnostics with the same markup have the same link, place and message. -/
theorem markup_is_read_back :
    (∀ (feed : Feed) (line : Text) (kind : LineKind) (feedback : Feedback) (markup : Text),
        (feed.step line kind).2 = .ok feedback → feedback.rendering = .html markup →
          ∃ fragment, feed.Tells line feedback fragment ∧
            ∀ other : Fragment, other.WrittenAs markup ↔ other = fragment) ∧
      ∀ (first second : Feed) (firstLine secondLine : Text) (firstKind secondKind : LineKind)
          (firstFeedback secondFeedback : Feedback) (firstTold secondTold : Diagnostic),
        (first.step firstLine firstKind).2 = .ok firstFeedback →
          (second.step secondLine secondKind).2 = .ok secondFeedback →
          firstFeedback.diagnostic? = some firstTold →
          secondFeedback.diagnostic? = some secondTold →
          firstFeedback.rendering = secondFeedback.rendering →
            ∃ firstFile secondFile, firstTold.file? = some firstFile ∧
              secondTold.file? = some secondFile ∧
              Link.target first.template firstFile firstTold.line? =
                Link.target second.template secondFile secondTold.line? ∧
              Rendering.location firstFile firstTold.line? =
                Rendering.location secondFile secondTold.line? ∧
              firstTold.message = secondTold.message := by
  refine ⟨?_, ?_⟩
  · intro feed line kind feedback markup answered marked
    rcases step_ok answered with ⟨-, plain⟩ | ⟨fragment, written, same, isWritten, tells⟩
    · exact absurd marked (plain markup)
    · rw [marked, Rendering.html.injEq] at same
      subst same
      refine ⟨fragment, tells, fun other => ⟨fun isOther => ?_, fun same => same ▸ isWritten⟩⟩
      exact Fragment.writtenAs_unique isOther isWritten
  · intro first second firstLine secondLine firstKind secondKind firstFeedback secondFeedback
      firstTold secondTold firstAnswered secondAnswered firstReports secondReports same
    rcases step_ok firstAnswered with ⟨none, -⟩ | ⟨_, markup, firstMarked, isFirst, firstTells⟩
    · rw [firstReports] at none
      cases none
    rcases step_ok secondAnswered with ⟨none, -⟩ | ⟨_, other, secondMarked, isSecond, secondTells⟩
    · rw [secondReports] at none
      cases none
    obtain ⟨firstFile, firstNamed, rfl⟩ := firstTells.eq_about firstReports
    obtain ⟨secondFile, secondNamed, rfl⟩ := secondTells.eq_about secondReports
    rw [firstMarked, secondMarked, Rendering.html.injEq] at same
    subst same
    have told := Fragment.writtenAs_unique isFirst isSecond
    simp only [Fragment.about, Fragment.paragraph.injEq] at told
    exact ⟨firstFile, secondFile, firstNamed, secondNamed, told⟩

/-- The mark in the template and in the line come through.  The template does not tell directories
apart, so two files of one name look alike. -/
theorem quote_and_angle_are_read_back :
    let options (file : Path) : FeedOptions :=
      { defaultFile? := some file, linkTemplate? := some "to\"" }
    let line : Text := "Overfull < at lines 12--13"
    let markup : Text := "<p><a href=\"to&quot;\">a.tex:12</a> Overfull &lt; at lines 12--13</p>"
    let told (file : Path) : Diagnostic :=
      { file? := some file, line? := some 12, message := line, severity := .badBox, kind := .badBox }
    let feedback (file : Path) : Feedback :=
      { rendering := .html markup, diagnostic? := some (told file) }
    ((start (options "d/a.tex")).step line .output).2 = .ok (feedback "d/a.tex") ∧
      ((start (options "e/a.tex")).step line .output).2 = .ok (feedback "e/a.tex") ∧
      (∃ fragment, (start (options "d/a.tex")).Tells line (feedback "d/a.tex") fragment ∧
        ∀ other : Fragment, other.WrittenAs markup ↔ other = fragment) ∧
      ∃ first second, (told "d/a.tex").file? = some first ∧ (told "e/a.tex").file? = some second ∧
        Link.target "to\"" first (some 12) = Link.target "to\"" second (some 12) ∧
        Rendering.location first (some 12) = Rendering.location second (some 12) ∧
        (told "d/a.tex").message = (told "e/a.tex").message := by
  intro options line markup told feedback
  obtain ⟨single, pairs⟩ := markup_is_read_back
  have first : ((start (options "d/a.tex")).step line .output).2 = .ok (feedback "d/a.tex") := by
    decide +kernel
  have second : ((start (options "e/a.tex")).step line .output).2 = .ok (feedback "e/a.tex") := by
    decide +kernel
  exact ⟨first, second, single _ _ _ _ _ first rfl,
    pairs _ _ _ _ _ _ _ _ _ _ first second rfl rfl rfl⟩

end Feed

end Typeset
