import Mathlib.Data.List.Forall2
import Typeset.Feedback.Feed

namespace Typeset.Feed

def answers : Feed → List (Text × LineKind) → List (Feed × Except FeedFault Feedback)
  | _, [] => []
  | feed, (line, kind) :: lines =>
      feed.step line kind :: (feed.step line kind).1.answers lines

def after (feed : Feed) (lines : List (Text × LineKind)) : Feed :=
  lines.foldl (fun feed (line, kind) => (feed.step line kind).1) feed

@[simp] theorem after_nil (feed : Feed) : feed.after [] = feed := rfl

@[simp] theorem after_cons (feed : Feed) (line : Text × LineKind)
    (lines : List (Text × LineKind)) :
    feed.after (line :: lines) = (feed.step line.1 line.2).1.after lines := rfl

theorem after_append (feed : Feed) (first second : List (Text × LineKind)) :
    feed.after (first ++ second) = (feed.after first).after second :=
  List.foldl_append

theorem answers_append (feed : Feed) (first second : List (Text × LineKind)) :
    feed.answers (first ++ second) =
      feed.answers first ++ (feed.after first).answers second := by
  induction first generalizing feed with
  | nil => rfl
  | cons line first ih => simp only [List.cons_append, answers, ih, after_cons]

theorem forall_mem_answers (kept : Feed → Prop) (told : Except FeedFault Feedback → Prop)
    {lines : List (Text × LineKind)}
    (step : ∀ feed : Feed, kept feed → ∀ line ∈ lines,
      kept (feed.step line.1 line.2).1 ∧ told (feed.step line.1 line.2).2)
    {feed : Feed} (start : kept feed) : ∀ result ∈ feed.answers lines, told result.2 := by
  induction lines generalizing feed with
  | nil => simp [answers]
  | cons line lines ih =>
      obtain ⟨keeps, tells⟩ := step feed start line List.mem_cons_self
      rw [answers, List.forall_mem_cons]
      refine ⟨tells, ih ?_ keeps⟩
      intro next kept other member
      exact step next kept other (List.mem_cons_of_mem line member)

end Typeset.Feed
