import Typeset.Proofs.Build.Session
import Typeset.Proofs.Feedback.Refusal
import Typeset.Proofs.Message.Severity

/-!
How serious a run is.  Under the lenient policy every line but the banner is heard, and each tells
by itself how serious it is; so the order of the lines does not count, nor what files they open.
-/

namespace Typeset

namespace Feed

variable {feed : Feed}

def spoken (lines : List (Text × LineKind)) : List Text :=
  lines.filterMap fun line => if line.2 = .output then some line.1 else none

theorem highest_step_banner (feed : Feed) (line : Text) :
    (feed.step line .banner).1.listener.highest = feed.listener.highest := by
  have passed : feed.passesOver .banner = true := by simp [passesOver]
  rw [step_of_passesOver passed]
  rfl

theorem highest_step_output (lenient : feed.options.policy = .lenient)
    (unraw : feed.options.raw = false) (line : Text) :
    (feed.step line .output).1.listener.highest =
      feed.listener.highest.max (Message.severityOf line) := by
  have listens : feed.listensTo line .output = true := by
    simp [listensTo, passesOver_eq unraw, lenient]
  rw [step_of_listensTo listens, listener_answer, Listener.highest_hear, countLine,
    listener_follow]

theorem highest_after (lenient : feed.options.policy = .lenient)
    (unraw : feed.options.raw = false) (lines : List (Text × LineKind)) :
    (feed.after lines).listener.highest =
      feed.listener.highest.max (Severity.maximum ((spoken lines).map Message.severityOf)) := by
  induction lines generalizing feed with
  | nil => simp [spoken, Severity.maximum]
  | cons line lines ih =>
      obtain ⟨text, kind⟩ := line
      have options := feed.options_step text kind
      rw [after_cons, ih (by rw [options, lenient]) (by rw [options, unraw])]
      cases kind with
      | banner =>
          rw [highest_step_banner]
          rfl
      | output =>
          rw [highest_step_output lenient unraw, Severity.max_assoc]
          rfl

theorem untilFault_of_faultless {lines : List (Text × LineKind)}
    (faultless : feed.faults lines = []) : feed.untilFault lines = feed.after lines := by
  have none : feed.firstFault? lines = none := by
    rw [firstFault?_eq_head?, faultless, List.head?_nil]
  rw [firstFault?_eq_none_iff] at none
  rw [untilFault, none, List.take_of_length_le (Nat.le_succ _)]

end Feed

def withoutBanner (lines : List OutputLine) : List Text :=
  Feed.spoken (introduced lines)

def banner? (lines : List OutputLine) : Option OutputLine :=
  lines.find? fun line => line.stream = .stdout ∧ Text.trim line.text ≠ []

theorem withoutBanner_cons (line : OutputLine) (lines : List OutputLine) :
    withoutBanner (line :: lines) =
      if line.stream = .stdout ∧ Text.trim line.text ≠ [] then lines.map OutputLine.text
      else line.text :: withoutBanner lines := by
  rw [withoutBanner, introduced]
  split
  · simp [Feed.spoken, List.filterMap_map]
  · rfl

theorem texts_perm (lines : List OutputLine) :
    (lines.map OutputLine.text).Perm
      ((banner? lines).toList.map OutputLine.text ++ withoutBanner lines) := by
  induction lines with
  | nil => rfl
  | cons line lines ih =>
      rw [banner?, List.find?_cons, withoutBanner_cons]
      by_cases introduces : line.stream = .stdout ∧ Text.trim line.text ≠ []
      · simp [introduces]
      · simp only [introduces, decide_false, if_false, List.map_cons]
        exact (ih.cons line.text).trans List.perm_middle.symm

theorem withoutBanner_perm {lines others : List OutputLine} (rearranged : lines.Perm others)
    (sameBanner : banner? lines = banner? others) :
    (withoutBanner lines).Perm (withoutBanner others) := by
  have texts := (texts_perm lines).symm.trans ((rearranged.map _).trans (texts_perm others))
  rw [sameBanner] at texts
  exact (List.perm_append_left_iff _).mp texts

namespace Plan

variable {settings : Settings}

theorem highest_session (plan : Plan) (lenient : settings.policy = .lenient)
    (hidden : settings.debug = false) (lines : List OutputLine) :
    ((Session.start (plan.feedOptions settings)).receiveAll lines).1.feed.listener.highest =
      Severity.maximum ((withoutBanner lines).map Message.severityOf) := by
  have faultless : (Feed.start (plan.feedOptions settings)).faults (introduced lines) = [] :=
    Feed.faults_eq_nil rfl lenient
  obtain ⟨feed, -, -⟩ :=
    (Session.start (plan.feedOptions settings)).receiveAll_follows rfl lines
  have heard : ((Session.start (plan.feedOptions settings)).receiveAll lines).1.feed =
      (Feed.start (plan.feedOptions settings)).after (introduced lines) :=
    feed.trans (Feed.untilFault_of_faultless faultless)
  rw [heard, Feed.highest_after lenient hidden]
  exact Severity.none_max _

theorem told_carryOut (plan : Plan) (lenient : settings.policy = .lenient)
    (hidden : settings.debug = false) (before : Workspace) (delivery : Delivery)
    (warnLevel : UInt8) :
    (plan.carryOut settings before delivery).outcome.map (fun outcome =>
        (outcome.summary.highest, outcome.disposition warnLevel)) =
      delivery.ending.map fun success =>
        let highest := Severity.maximum ((withoutBanner delivery.lines).map Message.severityOf)
        (highest, .of success highest warnLevel) := by
  rw [carryOut]
  cases delivery.ending with
  | error failure => rfl
  | ok success =>
      refine congrArg Except.ok ?_
      rw [← plan.highest_session lenient hidden delivery.lines]
      rfl

end Plan

end Typeset
