import Typeset.Nesting.Basic

/-!
The plain machine: a file is entered or the innermost one is left, and nothing else happens.  A
nesting that reads tokens does what the machine does with their marks.
-/

namespace Typeset

inductive FileMark where
  | enter (path : Path)
  | leave
deriving DecidableEq, Repr

namespace FileMark

def act? : List Path → FileMark → Option (List Path)
  | stack, enter path => some (path :: stack)
  | _ :: outer, leave => some outer
  | [], leave => none

def run? (stack : List Path) (marks : List FileMark) : Option (List Path) :=
  marks.foldlM act? stack

/-- What the marks of each line come to.  After a line that leaves an empty stack none is open. -/
def runEach? : List Path → List (List FileMark) → List (Option (List Path))
  | _, [] => []
  | stack, line :: lines => run? stack line :: runEach? ((run? stack line).getD []) lines

@[simp] theorem run?_nil (stack : List Path) : run? stack [] = some stack := rfl

@[simp] theorem run?_enter (stack : List Path) (path : Path) (marks : List FileMark) :
    run? stack (enter path :: marks) = run? (path :: stack) marks := rfl

@[simp] theorem run?_leave_cons (path : Path) (outer : List Path) (marks : List FileMark) :
    run? (path :: outer) (leave :: marks) = run? outer marks := rfl

@[simp] theorem run?_leave_nil (marks : List FileMark) : run? [] (leave :: marks) = none := rfl

theorem run?_append (stack : List Path) (first second : List FileMark) :
    run? stack (first ++ second) = (run? stack first).bind fun next => run? next second := by
  simp only [run?, List.foldlM_append, Option.bind_eq_bind]

theorem run?_base {stack next : List Path} {marks : List FileMark}
    (reached : run? stack marks = some next) (base : List Path) :
    run? (stack ++ base) marks = some (next ++ base) := by
  induction marks generalizing stack with
  | nil =>
      obtain rfl : stack = next := Option.some.inj reached
      rfl
  | cons mark marks ih =>
      cases mark with
      | enter path =>
          rw [run?_enter] at reached
          exact ih reached
      | leave =>
          cases stack with
          | nil => simp at reached
          | cons path outer =>
              rw [run?_leave_cons] at reached
              exact ih reached

theorem mem_of_run? {stack next : List Path} {marks : List FileMark} {path : Path}
    (reached : run? stack marks = some next) (member : path ∈ next) :
    path ∈ stack ∨ .enter path ∈ marks := by
  induction marks generalizing stack with
  | nil =>
      obtain rfl : stack = next := Option.some.inj reached
      exact .inl member
  | cons mark marks ih =>
      cases mark with
      | enter entered =>
          rw [run?_enter] at reached
          rcases ih reached with old | later
          · rcases List.mem_cons.mp old with rfl | old
            · exact .inr List.mem_cons_self
            · exact .inl old
          · exact .inr (List.mem_cons_of_mem _ later)
      | leave =>
          cases stack with
          | nil => simp at reached
          | cons left outer =>
              rw [run?_leave_cons] at reached
              exact (ih reached).imp (List.mem_cons_of_mem left) (List.mem_cons_of_mem _)

end FileMark

/-- What a token does to the open files.  The start of a wrapped path does nothing to them yet. -/
def FileToken.marks : FileToken → List FileMark
  | opened path => [.enter (Text.trimEnd path)]
  | closed => [.leave]
  | pair => []
  | passed _ => []
  | wrapped _ => []

theorem FileToken.flatMap_marks_closed (count : Nat) :
    (List.replicate count FileToken.closed).flatMap marks = List.replicate count .leave := by
  rw [List.flatMap_replicate]
  exact List.flatten_replicate_singleton

namespace Nesting

def within (rule : NestingRule) (stack : List Path) : Nesting where
  rule := rule
  files := ⟨stack⟩

/-- The nesting after a run of the machine.  A machine that stopped had left all files. -/
def outcome (rule : NestingRule) : Option (List Path) → Nesting × Option NestingFault
  | some stack => (within rule stack, none)
  | none => (within rule [], some .underflow)

def consumeEach : Nesting → List Text → List (Nesting × Option NestingFault)
  | _, [] => []
  | nesting, line :: lines =>
      nesting.consume line :: (nesting.consume line).1.consumeEach lines

def consumeAll (nesting : Nesting) : List Text → Nesting × Option NestingFault
  | [] => (nesting, none)
  | line :: lines =>
      match nesting.consume line with
      | (next, none) => next.consumeAll lines
      | faulty => faulty

def advance (nesting : Nesting) (line : Text) : Nesting × Except NestingFault (Option Path) :=
  match nesting.consume line with
  | (next, none) => (next.current.2, .ok next.current.1)
  | (next, some fault) => (next, .error fault)

def advanceAll (nesting : Nesting) :
    List Text → Nesting × List (Except NestingFault (Option Path))
  | [] => (nesting, [])
  | line :: lines =>
      let (last, answers) := (nesting.advance line).1.advanceAll lines
      (last, (nesting.advance line).2 :: answers)

theorem apply_within (rule : NestingRule) (stack : List Path) (token : FileToken)
    (whole : ∀ head, token ≠ .wrapped head) :
    (within rule stack).apply token =
      match FileMark.run? stack token.marks with
      | some next => .ok (within rule next)
      | none => .error .underflow := by
  cases token with
  | opened path => rfl
  | closed => cases stack <;> rfl
  | pair => rfl
  | passed path => rfl
  | wrapped head => exact absurd rfl (whole head)

theorem run?_marks_eq_none {stack : List Path} {token : FileToken}
    (stopped : FileMark.run? stack token.marks = none) : stack = [] := by
  cases token <;> cases stack <;> simp [FileToken.marks] at stopped ⊢

theorem run_within (rule : NestingRule) (stack : List Path) {tokens : List FileToken}
    (whole : ∀ head, .wrapped head ∉ tokens) :
    (within rule stack).run tokens =
      outcome rule (FileMark.run? stack (tokens.flatMap FileToken.marks)) := by
  induction tokens generalizing stack with
  | nil => rfl
  | cons token tokens ih =>
      have applied := apply_within rule stack token fun head same =>
        whole head (same ▸ List.mem_cons_self)
      have others : ∀ head, .wrapped head ∉ tokens := fun head member =>
        whole head (List.mem_cons_of_mem token member)
      rw [List.flatMap_cons, FileMark.run?_append, run, applied]
      cases marked : FileMark.run? stack token.marks with
      | some next => exact ih next others
      | none =>
          rw [run?_marks_eq_none marked]
          rfl

theorem fst_outcome (rule : NestingRule) (reached? : Option (List Path)) :
    (outcome rule reached?).1 = within rule (reached?.getD []) := by
  cases reached? <;> rfl

theorem settle_of_named {files : OpenFiles} (named : ∀ path ∈ files.innermostFirst, path ≠ []) :
    files.settle = files := by
  obtain ⟨innermostFirst⟩ := files
  cases innermostFirst with
  | nil => rfl
  | cons path outer =>
      have nonempty : path ≠ [] := named path List.mem_cons_self
      simp [OpenFiles.settle, nonempty]

theorem current_of_named {nesting : Nesting}
    (named : ∀ path ∈ nesting.files.innermostFirst, path ≠ []) :
    nesting.current = (nesting.files.innermostFirst.head?, nesting) := by
  simp only [current, OpenFiles.current?, settle_of_named named]

theorem current_within (rule : NestingRule) {stack : List Path}
    (named : ∀ path ∈ stack, path ≠ []) :
    (within rule stack).current = (stack.head?, within rule stack) :=
  current_of_named named

theorem advance_within {line : Text} {rule : NestingRule} {stack next : List Path}
    {marks : List FileMark}
    (follows : (within rule stack).consume line = outcome rule (FileMark.run? stack marks))
    (reached : FileMark.run? stack marks = some next) (named : ∀ path ∈ next, path ≠ []) :
    (within rule stack).advance line = (within rule next, .ok next.head?) := by
  rw [reached] at follows
  simp only [advance, follows, outcome, current_within rule named]

section Log

variable {Line : Type} {text : Line → Text} {marks : Line → List FileMark} {rule : NestingRule}

theorem consumeEach_within
    (follows : ∀ (line : Line) (stack : List Path),
      (within rule stack).consume (text line) = outcome rule (FileMark.run? stack (marks line)))
    (log : List Line) (stack : List Path) :
    (within rule stack).consumeEach (log.map text) =
      (FileMark.runEach? stack (log.map marks)).map (outcome rule) := by
  induction log generalizing stack with
  | nil => rfl
  | cons line log ih =>
      simp only [List.map_cons, consumeEach, FileMark.runEach?, follows line stack]
      rw [fst_outcome, ih]

theorem consumeAll_within
    (follows : ∀ (line : Line) (stack : List Path),
      (within rule stack).consume (text line) = outcome rule (FileMark.run? stack (marks line)))
    (log : List Line) (stack : List Path) :
    (within rule stack).consumeAll (log.map text) =
      outcome rule (FileMark.run? stack (log.flatMap marks)) := by
  induction log generalizing stack with
  | nil => rfl
  | cons line log ih =>
      rw [List.map_cons, List.flatMap_cons, FileMark.run?_append, consumeAll, follows line stack]
      cases FileMark.run? stack (marks line) with
      | some next => exact ih next
      | none => rfl

theorem advanceAll_within {log : List Line}
    (follows : ∀ line ∈ log, ∀ stack : List Path,
      (within rule stack).consume (text line) = outcome rule (FileMark.run? stack (marks line)))
    (entered : ∀ line ∈ log, ∀ path : Path, .enter path ∈ marks line → path ≠ [])
    {stack last : List Path} (named : ∀ path ∈ stack, path ≠ [])
    (reached : FileMark.run? stack (log.flatMap marks) = some last) :
    (within rule stack).advanceAll (log.map text) =
      (within rule last, (FileMark.runEach? stack (log.map marks)).map fun files? =>
        .ok (files?.bind List.head?)) := by
  induction log generalizing stack with
  | nil =>
      obtain rfl : stack = last := Option.some.inj reached
      rfl
  | cons line log ih =>
      rw [List.flatMap_cons, FileMark.run?_append, Option.bind_eq_some_iff] at reached
      obtain ⟨next, inner, later⟩ := reached
      have namedNext : ∀ path ∈ next, path ≠ [] := by
        intro path member
        rcases FileMark.mem_of_run? inner member with old | new
        · exact named path old
        · exact entered line List.mem_cons_self path new
      have advanced := advance_within (follows line List.mem_cons_self stack) inner namedNext
      have others := ih (fun other member => follows other (List.mem_cons_of_mem line member))
        (fun other member => entered other (List.mem_cons_of_mem line member)) namedNext later
      simp only [List.map_cons, advanceAll, advanced, FileMark.runEach?, inner, Option.getD_some,
        others, Option.bind_some]

end Log

end Nesting

end Typeset
