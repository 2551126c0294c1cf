import Typeset.Proofs.Feedback.Run

namespace Typeset

def Rendering.ofAnswer : Except FeedFault Feedback → Rendering
  | .ok feedback => feedback.rendering
  | .error _ => .verbatim

namespace Feed

def refusal? : Except FeedFault Feedback → Option FeedFault
  | .ok _ => none
  | .error fault => some fault

/-- The number of lines before the first one without feedback. -/
def served (feed : Feed) (lines : List (Text × LineKind)) : Nat :=
  (feed.answers lines).findIdx fun answer => (refusal? answer.2).isSome

def firstFault? (feed : Feed) (lines : List (Text × LineKind)) : Option FeedFault :=
  (feed.answers lines).findSome? fun answer => refusal? answer.2

def renderings (feed : Feed) (lines : List (Text × LineKind)) : List Rendering :=
  ((feed.answers lines).take (feed.served lines)).map fun answer => .ofAnswer answer.2

def untilFault (feed : Feed) (lines : List (Text × LineKind)) : Feed :=
  feed.after (lines.take (feed.served lines + 1))

variable {feed next : Feed} {line : Text × LineKind} {feedback : Feedback} {fault : FeedFault}

@[simp] theorem length_answers (feed : Feed) (lines : List (Text × LineKind)) :
    (feed.answers lines).length = lines.length := by
  induction lines generalizing feed with
  | nil => rfl
  | cons line lines ih => simp only [answers, List.length_cons, ih]

theorem served_le (feed : Feed) (lines : List (Text × LineKind)) :
    feed.served lines ≤ lines.length := by
  rw [← length_answers feed lines]
  exact List.findIdx_le_length

theorem served_cons_ok (answered : feed.step line.1 line.2 = (next, .ok feedback))
    (lines : List (Text × LineKind)) :
    feed.served (line :: lines) = next.served lines + 1 := by
  simp [served, answers, answered, List.findIdx_cons, refusal?]

theorem served_cons_error (refused : feed.step line.1 line.2 = (next, .error fault))
    (lines : List (Text × LineKind)) : feed.served (line :: lines) = 0 := by
  simp [served, answers, refused, List.findIdx_cons, refusal?]

theorem firstFault?_cons_ok (answered : feed.step line.1 line.2 = (next, .ok feedback))
    (lines : List (Text × LineKind)) :
    feed.firstFault? (line :: lines) = next.firstFault? lines := by
  simp [firstFault?, answers, answered, refusal?]

theorem firstFault?_cons_error (refused : feed.step line.1 line.2 = (next, .error fault))
    (lines : List (Text × LineKind)) : feed.firstFault? (line :: lines) = some fault := by
  simp [firstFault?, answers, refused, refusal?]

theorem renderings_cons_ok (answered : feed.step line.1 line.2 = (next, .ok feedback))
    (lines : List (Text × LineKind)) :
    feed.renderings (line :: lines) = feedback.rendering :: next.renderings lines := by
  simp [renderings, served_cons_ok answered, answers, answered, Rendering.ofAnswer]

theorem renderings_cons_error (refused : feed.step line.1 line.2 = (next, .error fault))
    (lines : List (Text × LineKind)) : feed.renderings (line :: lines) = [] := by
  simp [renderings, served_cons_error refused]

theorem untilFault_cons_ok (answered : feed.step line.1 line.2 = (next, .ok feedback))
    (lines : List (Text × LineKind)) :
    feed.untilFault (line :: lines) = next.untilFault lines := by
  simp [untilFault, served_cons_ok answered, answered]

theorem untilFault_cons_error (refused : feed.step line.1 line.2 = (next, .error fault))
    (lines : List (Text × LineKind)) : feed.untilFault (line :: lines) = next := by
  simp [untilFault, served_cons_error refused, refused]

theorem firstFault?_eq_none_iff (feed : Feed) (lines : List (Text × LineKind)) :
    feed.firstFault? lines = none ↔ feed.served lines = lines.length := by
  rw [firstFault?, served, ← length_answers feed lines, List.findSome?_eq_none_iff,
    List.findIdx_eq_length]
  simp only [Option.isSome_eq_false_iff, Option.isNone_iff_eq_none]

end Feed

end Typeset
