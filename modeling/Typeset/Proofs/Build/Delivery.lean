import Typeset.Build.Delivery
import Typeset.Proofs.Text.Decoding

/-!
What an engine printed, as it is handed over.  Standard output comes first and is decoded piece by
piece, which reads it as it would be read as a whole; then come the lines of the error output.  A
receiver is called for one line after the other until it refuses one.
-/

namespace Typeset

section Receiving

variable {σ : Type} (receive : σ → OutputLine → σ × Option Failure)

/-- A receiver that also keeps the lines that it is called with. -/
def keeping (kept : List OutputLine × σ) (line : OutputLine) :
    (List OutputLine × σ) × Option Failure :=
  ((kept.1 ++ [line], (receive kept.2 line).1), (receive kept.2 line).2)

def refusals (state : σ) : List OutputLine → List (Option Failure)
  | [] => []
  | line :: lines => (receive state line).2 :: refusals (receive state line).1 lines

theorem length_refusals (state : σ) (lines : List OutputLine) :
    (refusals receive state lines).length = lines.length := by
  induction lines generalizing state with
  | nil => rfl
  | cons line lines ih => simp only [refusals, List.length_cons, ih]

theorem handOver_keeping (kept : List OutputLine) (state : σ) (lines : List OutputLine) :
    let handed := handOver (keeping receive) (kept, state) lines
    handOver receive state lines = (handed.1.2, handed.2) := by
  induction lines generalizing kept state with
  | nil => rfl
  | cons line lines ih =>
      cases received : receive state line with
      | mk next refused =>
          cases refused with
          | none => simpa [handOver, keeping, received] using ih (kept ++ [line]) next
          | some failure => simp [handOver, keeping, received]

variable {receive} {state : σ} {lines : List OutputLine}

theorem handOver_of_taken (accepted : ∀ answer ∈ refusals receive state lines, answer = none)
    (kept : List OutputLine) :
    ∃ last, handOver (keeping receive) (kept, state) lines = ((kept ++ lines, last), none) := by
  induction lines generalizing kept state with
  | nil => exact ⟨state, by rw [List.append_nil, handOver]⟩
  | cons line lines ih =>
      rw [refusals, List.forall_mem_cons] at accepted
      obtain ⟨last, handed⟩ := ih accepted.2 (kept ++ [line])
      exact ⟨last, by simp [handOver, keeping, accepted.1, handed]⟩

theorem handOver_of_refused {taken : Nat} {failure : Failure} {behind : List (Option Failure)}
    (answers : refusals receive state lines = List.replicate taken none ++ some failure :: behind)
    (kept : List OutputLine) :
    ∃ last, handOver (keeping receive) (kept, state) lines =
      ((kept ++ lines.take (taken + 1), last), some failure) := by
  induction lines generalizing kept state taken with
  | nil => simp [refusals] at answers
  | cons line lines ih =>
      cases taken with
      | zero =>
          have refused : (receive state line).2 = some failure := (List.cons.inj answers).1
          exact ⟨(receive state line).1, by simp [handOver, keeping, refused]⟩
      | succ taken =>
          rw [refusals, List.replicate_succ, List.cons_append, List.cons.injEq] at answers
          obtain ⟨last, handed⟩ := ih answers.2 (kept ++ [line])
          exact ⟨last, by simp [handOver, keeping, answers.1, handed]⟩

theorem Delivery.run_eq (delivery : Delivery) (receive : σ → OutputLine → σ × Option Failure)
    (state : σ) :
    let handed := handOver receive state delivery.lines
    delivery.run receive state = (handed.1, handed.2.elim delivery.ending .error) := by
  unfold run
  split
  · next next handed => simp only [handed, Option.elim_none]
  · next next failure handed => simp only [handed, Option.elim_some]

end Receiving

namespace Execution

variable (execution : Execution)

theorem flatten_decodeLossy (bytes : Bytes) :
    ((Text.cutAfter lineFeed bytes).map Text.decodeLossy).flatten = Text.decodeLossy bytes := by
  rw [lineFeed, Text.decodeLossy_lines, Text.flatten_cutAfter]

theorem forall₂_stdoutLines :
    List.Forall₂ (fun piece line => Text.Stripped (Text.decodeLossy piece) line ∧ '\n' ∉ line)
      (Text.cutAfter lineFeed execution.stdout) execution.stdoutLines := by
  rw [stdoutLines, List.forall₂_map_right_iff, List.forall₂_same]
  intro piece member
  refine ⟨Text.stripped_dropLineEnds _, ?_⟩
  have decoded : Text.decodeLossy piece ∈ Text.cutAfter '\n' (Text.decodeLossy execution.stdout) := by
    rw [← Text.decodeLossy_lines]
    exact List.mem_map_of_mem member
  exact (Text.lineFeed_not_mem_of_mem_cutAfter decoded).1

end Execution

/-- An engine that is found and started is run, and its lines are handed over: one for each piece of
its standard output, decoded and without the line ends behind it, and then those of its error output.
The pieces are decoded to what the whole is decoded to.  If no line is refused the receiver is called
for all of them, and the run tells whether the status is zero.  If line after line is taken and then
one is refused, the receiver is called up to that one, and the run fails as it does. -/
theorem output_is_handed_over {invocation : Invocation} {programs : SearchPath}
    {workspace : Workspace} {program : Program}
    (found : programs invocation.engine = some program)
    (started : invocation.startFault? workspace = none)
    {σ : Type} (receive : σ → OutputLine → σ × Option Failure) (state : σ) :
    let execution := program.run workspace invocation.args
    let delivery := invocation.deliver programs workspace
    let ran := delivery.run (keeping receive) ([], state)
    ∃ pieces printed,
      Text.Pieces Execution.lineFeed execution.stdout pieces ∧
      List.Forall₂ (fun piece line => Text.Stripped (Text.decodeLossy piece) line ∧ '\n' ∉ line)
        pieces printed ∧
      (pieces.map Text.decodeLossy).flatten = Text.decodeLossy execution.stdout ∧
      delivery.run receive state = (ran.1.2, ran.2) ∧
      let lines := printed.map (OutputLine.mk .stdout) ++
        (Text.lines (Text.decodeLossy execution.stderr)).map (OutputLine.mk .stderr)
      ((∀ answer ∈ refusals receive state lines, answer = none) →
        ran.1.1 = lines ∧ ran.2 = .ok (decide (execution.status = 0))) ∧
      ∀ (taken : Nat) (failure : Failure) (behind : List (Option Failure)),
        refusals receive state lines = List.replicate taken none ++ some failure :: behind →
          ran.1.1 = lines.take (taken + 1) ∧ ran.1.1.length = taken + 1 ∧
            ran.2 = .error failure := by
  intro execution delivery ran
  have deliver : (delivery.lines, delivery.ending) =
      (execution.lines, .ok (decide (execution.status = 0))) := by
    simp only [delivery, Invocation.deliver, found, started]
    rfl
  obtain ⟨delivered, ending⟩ := Prod.mk.inj deliver
  refine ⟨_, execution.stdoutLines, Text.pieces_iff.mpr rfl, execution.forall₂_stdoutLines,
    Execution.flatten_decodeLossy _, ?_, ?_⟩
  · simp only [ran, Delivery.run_eq, handOver_keeping receive [] state]
  · rw [← Execution.stderrLines, ← Execution.lines, ← delivered]
    constructor
    · intro accepted
      obtain ⟨last, handed⟩ := handOver_of_taken accepted []
      simp only [ran, Delivery.run_eq, handed, ending]
      exact ⟨rfl, rfl⟩
    · intro taken failure behind answers
      have count := length_refusals receive state delivery.lines
      rw [answers, List.length_append, List.length_replicate, List.length_cons] at count
      obtain ⟨last, handed⟩ := handOver_of_refused answers []
      simp only [ran, Delivery.run_eq, handed]
      refine ⟨rfl, ?_, rfl⟩
      rw [List.nil_append, List.length_take]
      omega

/-- A character is cut by a line feed, a line is empty and the last one is unfinished; the line of the
error output is refused, and the run fails although the engine does not. -/
theorem error_output_is_refused :
    let program : Program := {
      path := "/bin/tex"
      run := fun workspace _ => {
        stdout := [0xc3, 10, 13, 13, 10, 0xa9, 98, 13]
        stderr := [111, 13, 10]
        workspace } }
    let programs : SearchPath := fun engine => if engine = "tex" then some program else none
    let invocation : Invocation := { engine := "tex", args := ["a.tex"], workingDir := "." }
    let receive (count : Nat) (_ : OutputLine) :=
      (count + 1, if count = 3 then some (Failure.reported "stop") else none)
    let ran := (invocation.deliver programs { home := [] }).run (keeping receive) ([], 0)
    ran.1.1.length = 4 ∧ ran.2 = .error (.reported "stop") := by
  intro program programs invocation receive ran
  obtain ⟨pieces, printed, cut, lines, -, -, -, refused⟩ :=
    @output_is_handed_over invocation programs { home := [] } program rfl rfl Nat receive 0
  have count : printed.length = 3 := by
    rw [← lines.length_eq, ← Text.pieces_iff.mp cut]
    rfl
  obtain ⟨first, second, third, rfl⟩ := List.length_eq_three.mp count
  exact (refused 3 (.reported "stop") [] rfl).2

end Typeset
