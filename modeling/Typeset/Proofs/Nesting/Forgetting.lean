import Mathlib.Data.List.ReduceOption
import Typeset.Proofs.Nesting.Calls

/-!
Asking once more.  To ask for the current file forgets the entries without a path that lie innermost,
so of two nestings that are given the same lines, and of which one is asked more often, that one has
some such entries less.  This shows only where a line closes an entry that the other still has.
-/

namespace Typeset

/-- The second entries are the first ones less some that have no path. -/
inductive OpenFiles.Forgotten : List Path → List Path → Prop
  | nil : Forgotten [] []
  | kept (path : Path) {entries others : List Path} (rest : Forgotten entries others) :
      Forgotten (path :: entries) (path :: others)
  | blank {entries others : List Path} (rest : Forgotten entries others) :
      Forgotten ([] :: entries) others

namespace OpenFiles.Forgotten

variable {entries others : List Path}

theorem refl (entries : List Path) : Forgotten entries entries := by
  induction entries with
  | nil => exact .nil
  | cons path entries ih => exact .kept path ih

theorem length_le (forgotten : Forgotten entries others) : others.length ≤ entries.length := by
  induction forgotten with
  | nil => exact Nat.le_refl _
  | kept path rest ih => exact Nat.succ_le_succ ih
  | blank rest ih => exact Nat.le_succ_of_le ih

theorem settle_right (forgotten : Forgotten entries others) :
    Forgotten entries (others.dropWhile List.isEmpty) := by
  induction forgotten with
  | nil => exact .nil
  | kept path rest ih =>
      cases path with
      | nil => exact .blank ih
      | cons head tail => exact .kept (head :: tail) rest
  | blank rest ih => exact .blank ih

theorem settle (forgotten : Forgotten entries others) :
    Forgotten (entries.dropWhile List.isEmpty) (others.dropWhile List.isEmpty) := by
  induction forgotten with
  | nil => exact .nil
  | kept path rest ih =>
      cases path with
      | nil => exact ih
      | cons head tail => exact .kept (head :: tail) rest
  | blank rest ih => exact ih

theorem head?_settle (forgotten : Forgotten entries others) :
    (entries.dropWhile List.isEmpty).head? = (others.dropWhile List.isEmpty).head? := by
  induction forgotten with
  | nil => rfl
  | kept path rest ih =>
      cases path with
      | nil => exact ih
      | cons head tail => rfl
  | blank rest ih => exact ih

theorem of_blank (forgotten : Forgotten entries ([] :: others)) : Forgotten entries others := by
  generalize same : ([] :: others : List Path) = all at forgotten
  induction forgotten with
  | nil => cases same
  | kept path rest ih =>
      cases same
      exact .blank rest
  | blank rest ih => exact .blank (ih same)

theorem of_append {shared : List Path} (forgotten : Forgotten (shared ++ entries) (shared ++ others)) :
    Forgotten entries others := by
  induction shared with
  | nil => exact forgotten
  | cons path shared ih =>
      cases forgotten with
      | kept path rest => exact ih rest
      | blank rest => exact ih rest.of_blank

theorem append (shared : List Path) (forgotten : Forgotten entries others) :
    Forgotten (shared ++ entries) (shared ++ others) := by
  induction shared with
  | nil => exact forgotten
  | cons path shared ih => exact .kept path ih

end OpenFiles.Forgotten

/-- How many of the files that are open before them the tokens close. -/
def FileToken.closings : List FileToken → Nat
  | [] => 0
  | opened _ :: tokens => closings tokens - 1
  | closed :: tokens => closings tokens + 1
  | _ :: tokens => closings tokens

namespace Nesting

variable {nesting next plain asked : Nesting} {line : Text} {tokens : List FileToken}

def above (nesting : Nesting) (base : List Path) : Nesting :=
  { nesting with files := ⟨nesting.files.innermostFirst ++ base⟩ }

theorem apply_above {token : FileToken} (applied : nesting.apply token = .ok next)
    (base : List Path) : (nesting.above base).apply token = .ok (next.above base) := by
  rcases apply_cases applied with
    ⟨path, rfl, rfl⟩ | ⟨path, outer, rfl, files, rfl⟩ | ⟨head, rfl, rfl⟩ | ⟨rfl | ⟨path, rfl⟩, rfl⟩
  · rfl
  · simp only [apply, above, files, OpenFiles.pop?, List.cons_append]
  · rfl
  · rfl
  · rfl

theorem run_above (followed : nesting.run tokens = (next, none)) (base : List Path) :
    (nesting.above base).run tokens = (next.above base, none) := by
  induction tokens generalizing nesting with
  | nil =>
      cases followed
      rfl
  | cons token tokens ih =>
      rw [run] at followed
      cases applied : nesting.apply token with
      | error fault => simp [applied] at followed
      | ok middle =>
          rw [applied] at followed
          rw [run_cons_ok (apply_above applied base)]
          exact ih followed

theorem run_of_closings (enough : FileToken.closings tokens ≤ nesting.files.depth) :
    (nesting.run tokens).2 = none := by
  induction tokens generalizing nesting with
  | nil => rfl
  | cons token tokens ih =>
      cases token with
      | opened path =>
          refine ih ?_
          simp only [FileToken.closings] at enough
          rw [OpenFiles.depth_push]
          omega
      | closed =>
          obtain ⟨rule, ⟨innermostFirst⟩, pending?⟩ := nesting
          cases innermostFirst with
          | nil => simp [FileToken.closings, OpenFiles.depth] at enough
          | cons path outer => exact ih (Nat.le_of_succ_le_succ enough)
      | pair => exact ih enough
      | passed path => exact ih enough
      | wrapped head => exact ih enough

def closedBy (nesting : Nesting) (line : Text) : List Path :=
  match nesting.read line with
  | .ok tokens => nesting.files.innermostFirst.take (FileToken.closings tokens)
  | .error _ => []

structure Forgets (plain asked : Nesting) : Prop where
  rule : asked.rule = plain.rule
  pending : asked.pending? = plain.pending?
  files : OpenFiles.Forgotten plain.files.innermostFirst asked.files.innermostFirst

namespace Forgets

theorem refl (nesting : Nesting) : nesting.Forgets nesting :=
  ⟨rfl, rfl, .refl _⟩

theorem above (nesting : Nesting) {entries others : List Path}
    (forgotten : OpenFiles.Forgotten entries others) :
    (nesting.above entries).Forgets (nesting.above others) :=
  ⟨rfl, rfl, forgotten.append _⟩

theorem current_right (forgets : plain.Forgets asked) : plain.Forgets asked.current.2 :=
  { forgets with files := forgets.files.settle_right }

theorem current (forgets : plain.Forgets asked) :
    asked.current.1 = plain.current.1 ∧ plain.current.2.Forgets asked.current.2 :=
  ⟨forgets.files.head?_settle.symm, { forgets with files := forgets.files.settle }⟩

theorem read (forgets : plain.Forgets asked) (line : Text) : asked.read line = plain.read line := by
  simp only [Nesting.read, forgets.rule, forgets.pending]

/-- Entries that both have are open above what each of them has; if all are such, the two are one. -/
theorem eq_or_above (forgets : plain.Forgets asked) {count : Nat}
    (spared : plain.files.innermostFirst.take count <+: asked.files.innermostFirst) :
    plain = asked ∨ ∃ (inner : Nesting) (outer others : List Path), inner.files.depth = count ∧
      plain = inner.above outer ∧ asked = inner.above others ∧
        OpenFiles.Forgotten outer others := by
  obtain ⟨rule, ⟨entries⟩, pending?⟩ := plain
  obtain ⟨askedRule, ⟨askedEntries⟩, askedPending?⟩ := asked
  obtain ⟨sameRule, samePending, forgotten⟩ := forgets
  cases sameRule
  cases samePending
  change entries.take count <+: askedEntries at spared
  change OpenFiles.Forgotten entries askedEntries at forgotten
  rcases Nat.le_total count entries.length with enough | beyond
  · obtain ⟨others, rfl⟩ := spared
    have shared : OpenFiles.Forgotten (entries.take count ++ entries.drop count)
        (entries.take count ++ others) := by
      rwa [List.take_append_drop]
    refine .inr ⟨⟨rule, ⟨entries.take count⟩, pending?⟩, entries.drop count, others, ?_, ?_, rfl,
      shared.of_append⟩
    · simp [OpenFiles.depth, enough]
    · simp [Nesting.above]
  · rw [List.take_of_length_le beyond] at spared
    rw [spared.eq_of_length_le forgotten.length_le]
    exact .inl rfl

theorem run (forgets : plain.Forgets asked)
    (spared : plain.files.innermostFirst.take (FileToken.closings tokens) <+:
      asked.files.innermostFirst) :
    (asked.run tokens).2 = (plain.run tokens).2 ∧
      (plain.run tokens).1.Forgets (asked.run tokens).1 := by
  rcases forgets.eq_or_above spared with rfl | ⟨inner, outer, others, depth, rfl, rfl, forgotten⟩
  · exact ⟨rfl, refl _⟩
  · have followed : inner.run tokens = ((inner.run tokens).1, none) :=
      Prod.ext rfl (run_of_closings (Nat.le_of_eq depth.symm))
    rw [run_above followed, run_above followed]
    exact ⟨rfl, above _ forgotten⟩

theorem consume (forgets : plain.Forgets asked)
    (spared : plain.closedBy line <+: asked.files.innermostFirst) :
    (asked.consume line).2 = (plain.consume line).2 ∧
      (plain.consume line).1.Forgets (asked.consume line).1 := by
  have same := forgets.read line
  cases read : plain.read line with
  | error fault =>
      rw [Nesting.consume, Nesting.consume, same, read]
      exact ⟨rfl, { forgets with pending := rfl }⟩
  | ok tokens =>
      rw [consume_of_read read, consume_of_read (same.trans read)]
      have taken : { plain with pending? := none }.Forgets { asked with pending? := none } :=
        { forgets with pending := rfl }
      simp only [closedBy, read] at spared
      exact taken.run spared

end Forgets

def closedByCall (nesting : Nesting) : Call → List Path
  | .consume line => nesting.closedBy line
  | .advance line => nesting.closedBy line
  | .current => []

theorem Forgets.call (forgets : plain.Forgets asked) {call : Call}
    (spared : plain.closedByCall call <+: asked.files.innermostFirst) :
    (asked.call call).2 = (plain.call call).2 ∧
      (plain.call call).1.Forgets (asked.call call).1 := by
  have followed {line : Text} (spared : plain.closedBy line <+: asked.files.innermostFirst) :
      ∃ next askedNext fault?, plain.consume line = (next, fault?) ∧
        asked.consume line = (askedNext, fault?) ∧ next.Forgets askedNext := by
    obtain ⟨same, forgets⟩ := forgets.consume spared
    exact ⟨_, _, _, rfl, Prod.ext rfl same, forgets⟩
  cases call with
  | consume line =>
      obtain ⟨next, askedNext, fault?, consumed, askedConsumed, forgets⟩ := followed spared
      cases fault? with
      | none =>
          rw [call_consume_ok consumed, call_consume_ok askedConsumed]
          exact ⟨rfl, forgets⟩
      | some fault =>
          rw [call_consume_error consumed, call_consume_error askedConsumed]
          exact ⟨rfl, forgets⟩
  | advance line =>
      obtain ⟨next, askedNext, fault?, consumed, askedConsumed, forgets⟩ := followed spared
      cases fault? with
      | none =>
          rw [call_advance_ok consumed, call_advance_ok askedConsumed]
          exact ⟨congrArg Except.ok forgets.current.1, forgets.current.2⟩
      | some fault =>
          rw [call_advance_error consumed, call_advance_error askedConsumed]
          exact ⟨rfl, forgets⟩
  | current => exact ⟨congrArg Except.ok forgets.current.1, forgets.current.2⟩

/-- The replies to the calls of a schedule that also asks, in between, for the current file; these
questions are the missing calls, and what they are told is left out. -/
def repliesAmid : Nesting → List (Option Call) → List Reply
  | _, [] => []
  | nesting, none :: schedule => nesting.current.2.repliesAmid schedule
  | nesting, some call :: schedule =>
      (nesting.call call).2 :: (nesting.call call).1.repliesAmid schedule

/-- What a call closes in the nesting that is asked by the calls alone is, each time, what lies
innermost in the one that is also asked in between: no entry is closed that a question in between
has forgotten. -/
def SparesForgotten : Nesting → Nesting → List (Option Call) → Prop
  | _, _, [] => True
  | plain, asked, none :: schedule => plain.SparesForgotten asked.current.2 schedule
  | plain, asked, some call :: schedule =>
      plain.closedByCall call <+: asked.files.innermostFirst ∧
        (plain.call call).1.SparesForgotten (asked.call call).1 schedule

instance decidableSparesForgotten :
    (plain asked : Nesting) → (schedule : List (Option Call)) →
      Decidable (plain.SparesForgotten asked schedule)
  | _, _, [] => .isTrue trivial
  | plain, asked, none :: schedule => decidableSparesForgotten plain asked.current.2 schedule
  | plain, asked, some call :: schedule =>
      have := decidableSparesForgotten (plain.call call).1 (asked.call call).1 schedule
      inferInstanceAs (Decidable (_ ∧ _))

theorem Forgets.repliesAmid (forgets : plain.Forgets asked) {schedule : List (Option Call)}
    (spared : plain.SparesForgotten asked schedule) :
    asked.repliesAmid schedule = plain.replies schedule.reduceOption := by
  induction schedule generalizing plain asked with
  | nil => rfl
  | cons call? schedule ih =>
      cases call? with
      | none => exact ih forgets.current_right spared
      | some call =>
          obtain ⟨now, later⟩ := spared
          obtain ⟨same, next⟩ := forgets.call now
          rw [List.reduceOption_cons_of_some, Nesting.repliesAmid, replies, same, ih next later]

end Nesting

end Typeset
