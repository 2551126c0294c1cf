import Typeset.Command.Replay
import Typeset.Proofs.Build.Session
import Typeset.Proofs.Feedback.Step
import Typeset.Proofs.Text.Decoding

/-!
A replay of saved output and the build that printed it.  A build takes the bytes line by line, a
replay takes the text of them all; what each makes of a line is the same.
-/

namespace Typeset

def introducedText (lines : List Text) : List (Text × LineKind) :=
  introduced (lines.map (OutputLine.mk .stdout))

namespace Replay

variable {replay : Replay} {line : Text} {feed : Feed} {feedback : Feedback} {fault : FeedFault}

def last (replay : Replay) : List Text → Feed
  | [] => replay.feed
  | line :: lines =>
      match replay.step line with
      | (next, .ok _) => next.last lines
      | (next, .error _) => next.feed

def kinds (replay : Replay) (lines : List Text) : List (Text × LineKind) :=
  if replay.bannerSeen then lines.map fun line => (line, .output) else introducedText lines

def kindOf (replay : Replay) (line : Text) : LineKind :=
  if replay.isBanner line then .banner else .output

theorem step_eq (replay : Replay) (line : Text) :
    replay.step line =
      ({ feed := (replay.feed.step line (replay.kindOf line)).1
         bannerSeen := replay.bannerSeen || replay.isBanner line },
        (replay.feed.step line (replay.kindOf line)).2) :=
  rfl

theorem kinds_cons (replay : Replay) (line : Text) (lines : List Text) :
    replay.kinds (line :: lines) =
      (line, replay.kindOf line) :: (replay.step line).1.kinds lines := by
  rw [step_eq]
  cases seen : replay.bannerSeen with
  | true => simp [kinds, kindOf, isBanner, seen]
  | false =>
      by_cases blank : Text.trim line = []
      · simp [kinds, kindOf, isBanner, seen, introducedText, introduced, blank]
      · simp [kinds, kindOf, isBanner, seen, introducedText, introduced, blank]

theorem summary_run (replay : Replay) (lines : List Text) :
    (replay.run lines).summary = (replay.last lines).summary := by
  induction lines generalizing replay with
  | nil => rfl
  | cons line lines ih =>
      rw [run, last]
      cases replay.step line with
      | mk next answer =>
          cases answer with
          | ok feedback => exact ih next
          | error fault => rfl

theorem run_cons_ok (answered : replay.feed.step line (replay.kindOf line) = (feed, .ok feedback))
    (lines : List Text) :
    replay.run (line :: lines) =
      { (replay.step line).1.run lines with
        shown := (line, feedback) :: ((replay.step line).1.run lines).shown } := by
  simp only [run, step_eq, answered]

theorem run_cons_error
    (refused : replay.feed.step line (replay.kindOf line) = (feed, .error fault))
    (lines : List Text) :
    replay.run (line :: lines) =
      { shown := [], summary := feed.summary, fault? := some fault } := by
  simp only [run, step_eq, refused]

theorem run_follows (replay : Replay) (lines : List Text) :
    replay.last lines = replay.feed.untilFault (replay.kinds lines) ∧
      (replay.run lines).fault? = replay.feed.firstFault? (replay.kinds lines) ∧
        (replay.run lines).shown.map (fun shown => .ok shown.2) =
          ((replay.feed.answers (replay.kinds lines)).take
            (replay.feed.served (replay.kinds lines))).map Prod.snd := by
  induction lines generalizing replay with
  | nil =>
      have none : replay.kinds [] = [] := by simp [kinds, introducedText, introduced]
      rw [none]
      exact ⟨rfl, rfl, rfl⟩
  | cons line lines ih =>
      rw [kinds_cons]
      cases stepped : replay.feed.step line (replay.kindOf line) with
      | mk feed answer =>
          cases answer with
          | ok feedback =>
              have next : (replay.step line).1.feed = feed := by rw [step_eq, stepped]
              obtain ⟨last, fault, shown⟩ := ih (replay.step line).1
              rw [next] at last fault shown
              rw [run_cons_ok stepped]
              refine ⟨?_, ?_, ?_⟩
              · rw [Feed.untilFault_cons_ok stepped, ← last]
                simp only [Replay.last, step_eq, stepped]
              · rw [Feed.firstFault?_cons_ok stepped, ← fault]
              · rw [Feed.served_cons_ok stepped, Feed.answers, stepped, List.map_cons, shown,
                  List.take_succ_cons, List.map_cons]
          | error fault =>
              rw [run_cons_error stepped]
              refine ⟨?_, ?_, ?_⟩
              · rw [Feed.untilFault_cons_error stepped]
                simp only [last, step_eq, stepped]
              · rw [Feed.firstFault?_cons_error stepped]
              · rw [Feed.served_cons_error stepped, List.take_zero, List.map_nil, List.map_nil]

theorem length_shown (replay : Replay) (lines : List Text) :
    (replay.run lines).shown.length = replay.feed.served (replay.kinds lines) := by
  obtain ⟨-, -, shown⟩ := replay.run_follows lines
  have lengths := congrArg List.length shown
  rw [List.length_map, List.length_map, List.length_take, Feed.length_answers,
    Nat.min_eq_left (Feed.served_le _ _)] at lengths
  exact lengths

end Replay

section Agreement

variable {built : List OutputLine} {saved : List Text}

end Agreement

end Typeset
