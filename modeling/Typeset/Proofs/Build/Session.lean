import Typeset.Build.Session
import Typeset.Proofs.Feedback.FirstFault

/-!
A session does what a feed does, up to the first line without feedback, and shows every line.
-/

namespace Typeset

/-- The lines of a run with their kinds.  The first line of standard output that is not blank is the
banner. -/
def introduced : List OutputLine → List (Text × LineKind)
  | [] => []
  | line :: lines =>
      if line.stream = .stdout ∧ Text.trim line.text ≠ [] then
        (line.text, .banner) :: lines.map fun line => (line.text, .output)
      else (line.text, .output) :: introduced lines

@[simp] theorem length_introduced (lines : List OutputLine) :
    (introduced lines).length = lines.length := by
  induction lines with
  | nil => rfl
  | cons line lines ih =>
      rw [introduced]
      split
      · simp
      · simp [ih]

namespace Session

variable {session : Session} {line : OutputLine} {feed : Feed} {feedback : Feedback}
  {fault : FeedFault}

def kinds (session : Session) (lines : List OutputLine) : List (Text × LineKind) :=
  if session.bannerSeen then lines.map fun line => (line.text, .output) else introduced lines

theorem bannerSeen_receive (session : Session) (line : OutputLine) :
    (session.receive line).1.bannerSeen = (session.bannerSeen || session.isBanner line) := by
  unfold receive
  split
  · rfl
  · split <;> rfl

theorem kinds_cons (session : Session) (line : OutputLine) (lines : List OutputLine) :
    session.kinds (line :: lines) =
      (line.text, session.kindOf line) :: (session.receive line).1.kinds lines := by
  rw [kinds, kinds, bannerSeen_receive, kindOf]
  cases seen : session.bannerSeen with
  | true => simp [isBanner, seen]
  | false =>
      by_cases introduces : line.stream = .stdout ∧ Text.trim line.text ≠ []
      · simp [isBanner, seen, introduced, introduces]
      · have noBanner : session.isBanner line = false := by
          simpa [isBanner, seen] using introduces
        simp [noBanner, introduced, introduces]

theorem receive_of_faulty (faulty : session.fault? = some fault) (line : OutputLine) :
    (session.receive line).1.feed = session.feed ∧
      (session.receive line).1.fault? = some fault ∧
        (session.receive line).2 = { raw := line.text, rendering := .verbatim } := by
  simp [receive, faulty]

theorem receive_ok (faultless : session.fault? = none)
    (answered : session.feed.step line.text (session.kindOf line) = (feed, .ok feedback)) :
    (session.receive line).1.feed = feed ∧ (session.receive line).1.fault? = none ∧
      (session.receive line).2 = { raw := line.text, rendering := feedback.rendering } := by
  simp [receive, faultless, answered]

theorem receive_error (faultless : session.fault? = none)
    (refused : session.feed.step line.text (session.kindOf line) = (feed, .error fault)) :
    (session.receive line).1.feed = feed ∧ (session.receive line).1.fault? = some fault ∧
      (session.receive line).2 = { raw := line.text, rendering := .verbatim } := by
  simp [receive, faultless, refused]

theorem raw_receive (session : Session) (line : OutputLine) :
    (session.receive line).2.raw = line.text := by
  cases faulty : session.fault? with
  | some fault => rw [(receive_of_faulty faulty line).2.2]
  | none =>
      cases stepped : session.feed.step line.text (session.kindOf line) with
      | mk feed answer =>
          cases answer with
          | ok feedback => rw [(receive_ok faulty stepped).2.2]
          | error fault => rw [(receive_error faulty stepped).2.2]

theorem raw_receiveAll (session : Session) (lines : List OutputLine) :
    (session.receiveAll lines).2.map Emission.raw = lines.map OutputLine.text := by
  induction lines generalizing session with
  | nil => rfl
  | cons line lines ih => simp only [receiveAll, List.map_cons, raw_receive, ih]

theorem receiveAll_of_faulty (faulty : session.fault? = some fault) (lines : List OutputLine) :
    (session.receiveAll lines).1.feed = session.feed ∧
      (session.receiveAll lines).1.fault? = some fault ∧
        (session.receiveAll lines).2.map Emission.rendering =
          List.replicate lines.length .verbatim := by
  induction lines generalizing session with
  | nil => exact ⟨rfl, faulty, rfl⟩
  | cons line lines ih =>
      obtain ⟨feedStays, faultStays, emitted⟩ := receive_of_faulty faulty line
      obtain ⟨feedLater, faultLater, emittedLater⟩ := ih faultStays
      refine ⟨feedLater.trans feedStays, faultLater, ?_⟩
      simp only [receiveAll, List.map_cons, emitted, emittedLater, List.length_cons,
        List.replicate_succ]

theorem receiveAll_follows (session : Session) (faultless : session.fault? = none)
    (lines : List OutputLine) :
    (session.receiveAll lines).1.feed = session.feed.untilFault (session.kinds lines) ∧
      (session.receiveAll lines).1.fault? = session.feed.firstFault? (session.kinds lines) ∧
        (session.receiveAll lines).2.map Emission.rendering =
          session.feed.renderings (session.kinds lines) ++
            List.replicate (lines.length - session.feed.served (session.kinds lines))
              .verbatim := by
  induction lines generalizing session with
  | nil =>
      have none : session.kinds [] = [] := by simp [kinds, introduced]
      rw [none]
      exact ⟨rfl, faultless, rfl⟩
  | cons line lines ih =>
      rw [kinds_cons]
      cases stepped : session.feed.step line.text (session.kindOf line) with
      | mk feed answer =>
          cases answer with
          | ok feedback =>
              obtain ⟨feedNext, faultNext, emitted⟩ := receive_ok faultless stepped
              obtain ⟨feedLater, faultLater, emittedLater⟩ := ih _ faultNext
              rw [feedNext] at feedLater faultLater emittedLater
              refine ⟨?_, ?_, ?_⟩
              · rw [Feed.untilFault_cons_ok stepped, ← feedLater]
                rfl
              · rw [Feed.firstFault?_cons_ok stepped, ← faultLater]
                rfl
              · rw [Feed.renderings_cons_ok stepped, Feed.served_cons_ok stepped,
                  List.length_cons, Nat.add_sub_add_right, List.cons_append, ← emittedLater]
                simp only [receiveAll, List.map_cons, emitted]
          | error fault =>
              obtain ⟨feedNext, faultNext, emitted⟩ := receive_error faultless stepped
              obtain ⟨feedLater, faultLater, emittedLater⟩ := receiveAll_of_faulty faultNext lines
              refine ⟨?_, ?_, ?_⟩
              · rw [Feed.untilFault_cons_error stepped, ← feedNext, ← feedLater]
                rfl
              · rw [Feed.firstFault?_cons_error stepped, ← faultLater]
                rfl
              · rw [Feed.renderings_cons_error stepped, Feed.served_cons_error stepped]
                simp only [receiveAll, List.map_cons, emitted, emittedLater, List.length_cons,
                  Nat.sub_zero, List.replicate_succ, List.nil_append]

end Session

/-- A build shows every line that was handed over.  Up to the first line without feedback it shows
what the feed makes of the lines, and the outcome tells what the feed came to there. -/
theorem build_follows_feed (plan : Plan) (settings : Settings) (before : Workspace)
    (delivery : Delivery) :
    let build := plan.carryOut settings before delivery
    let feed := Feed.start (plan.feedOptions settings)
    let lines := introduced delivery.lines
    build.emitted.map Emission.raw = delivery.lines.map OutputLine.text ∧
      build.emitted.map Emission.rendering =
          feed.renderings lines ++ List.replicate (lines.length - feed.served lines) .verbatim ∧
        build.outcome.map (fun outcome => (outcome.success, outcome.summary, outcome.degraded?)) =
          delivery.ending.map fun success =>
            (success, (feed.untilFault lines).summary, feed.firstFault? lines) := by
  intro build feed lines
  obtain ⟨feedLast, faultLast, rendered⟩ :=
    (Session.start (plan.feedOptions settings)).receiveAll_follows rfl delivery.lines
  refine ⟨Session.raw_receiveAll _ _, ?_, ?_⟩
  · rw [length_introduced]
    exact rendered
  · simp only [build, Plan.carryOut]
    cases delivery.ending with
    | error failure => rfl
    | ok success =>
        simp only [Except.map, Plan.outcomeOf, feedLast, faultLast]
        rfl

end Typeset
