import Typeset.Nesting.Basic
import Typeset.Proofs.Text.Ends

/-!
Where a line fits no nesting.  Its tokens fail only where a file is left while none is open, and
then none is; a line cannot be read at all only where a line feed stands in the way of a pending
path.
-/

namespace Typeset.Nesting

variable {nesting next : Nesting} {token : FileToken} {line : Text} {fault : NestingFault}

theorem apply_eq_error (refused : nesting.apply token = .error fault) :
    fault = .underflow ∧ nesting.files = .empty := by
  cases token with
  | closed =>
      simp only [apply] at refused
      split at refused
      · next none =>
          cases refused
          rw [OpenFiles.pop?_eq_none_iff, OpenFiles.paths, List.reverse_eq_nil_iff] at none
          exact ⟨rfl, congrArg OpenFiles.mk none⟩
      · cases refused
  | opened path => cases refused
  | pair => cases refused
  | passed path => cases refused
  | wrapped head => cases refused

theorem run_faulty {tokens : List FileToken} (faulty : nesting.run tokens = (next, some fault)) :
    fault = .underflow ∧ next.files = .empty := by
  induction tokens generalizing nesting with
  | nil => cases faulty
  | cons token tokens ih =>
      rw [run] at faulty
      cases applied : nesting.apply token with
      | ok middle =>
          rw [applied] at faulty
          exact ih faulty
      | error found =>
          rw [applied] at faulty
          cases faulty
          exact apply_eq_error applied

theorem exists_read (unbroken : '\n' ∉ line) (nesting : Nesting) :
    ∃ tokens, nesting.read line = .ok tokens := by
  have dropped : '\n' ∉ Text.dropLineEnds line := mt Text.mem_of_mem_dropEndWhile unbroken
  cases rule : nesting.rule with
  | strict => exact ⟨_, by rw [read, rule]⟩
  | fragment =>
      have readable :
          (FileToken.Joined.tokens? nesting.pending? (Text.dropLineEnds line)).isSome := by
        cases nesting.pending? with
        | none => rfl
        | some head => rw [FileToken.Joined.tokens?, if_neg dropped, Option.isSome_some]
      obtain ⟨tokens, found⟩ := Option.isSome_iff_exists.mp readable
      exact ⟨tokens, by simp only [read, rule, found]⟩

theorem consume_faulty (unbroken : '\n' ∉ line)
    (faulty : nesting.consume line = (next, some fault)) :
    fault = .underflow ∧ next.files = .empty := by
  obtain ⟨tokens, readable⟩ := nesting.exists_read unbroken
  simp only [consume, readable] at faulty
  exact run_faulty faulty

end Typeset.Nesting
