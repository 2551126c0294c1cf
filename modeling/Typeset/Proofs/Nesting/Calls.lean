import Typeset.Proofs.Nesting.Mark

/-!
What can be done to a nesting.  A token acts on the open files or leaves a path pending.  A call, of
which there may be any in any order, follows a line, asks for the current file, or does both.
-/

namespace Typeset.Nesting

inductive Call where
  | consume (line : Text)
  | advance (line : Text)
  | current
deriving DecidableEq, Repr

abbrev Reply := Except NestingFault (Option Path)

def call (nesting : Nesting) : Call → Nesting × Reply
  | .consume line =>
      match nesting.consume line with
      | (next, none) => (next, .ok none)
      | (next, some fault) => (next, .error fault)
  | .advance line => nesting.advance line
  | .current => (nesting.current.2, .ok nesting.current.1)

def replies : Nesting → List Call → List Reply
  | _, [] => []
  | nesting, call :: calls => (nesting.call call).2 :: (nesting.call call).1.replies calls

def afterCalls (nesting : Nesting) (calls : List Call) : Nesting :=
  calls.foldl (fun nesting call => (nesting.call call).1) nesting

variable {nesting next : Nesting} {line : Text} {fault : NestingFault}

theorem apply_cases {token : FileToken} (applied : nesting.apply token = .ok next) :
    (∃ path, token = .opened path ∧ next = { nesting with files := nesting.files.push path }) ∨
      (∃ path outer, token = .closed ∧ nesting.files.innermostFirst = path :: outer ∧
        next = { nesting with files := ⟨outer⟩ }) ∨
      (∃ head, token = .wrapped head ∧ next = { nesting with pending? := some head }) ∨
      ((token = .pair ∨ ∃ path, token = .passed path) ∧ next = nesting) := by
  cases token with
  | opened path =>
      cases applied
      exact .inl ⟨path, rfl, rfl⟩
  | closed =>
      cases files : nesting.files with
      | mk innermostFirst =>
          cases innermostFirst with
          | nil => simp [apply, OpenFiles.pop?, files] at applied
          | cons path outer =>
              simp only [apply, OpenFiles.pop?, files, Except.ok.injEq] at applied
              exact .inr (.inl ⟨path, outer, rfl, rfl, applied.symm⟩)
  | pair =>
      cases applied
      exact .inr (.inr (.inr ⟨.inl rfl, rfl⟩))
  | passed path =>
      cases applied
      exact .inr (.inr (.inr ⟨.inr ⟨path, rfl⟩, rfl⟩))
  | wrapped head =>
      cases applied
      exact .inr (.inr (.inl ⟨head, rfl, rfl⟩))

theorem rule_apply {token : FileToken} (applied : nesting.apply token = .ok next) :
    next.rule = nesting.rule := by
  rcases apply_cases applied with
    ⟨path, -, rfl⟩ | ⟨path, outer, -, -, rfl⟩ | ⟨head, -, rfl⟩ | ⟨-, rfl⟩ <;> rfl

theorem rule_run (nesting : Nesting) (tokens : List FileToken) :
    (nesting.run tokens).1.rule = nesting.rule := by
  induction tokens generalizing nesting with
  | nil => rfl
  | cons token tokens ih =>
      rw [run]
      cases applied : nesting.apply token with
      | error fault => rfl
      | ok next => exact (ih next).trans (rule_apply applied)

theorem consume_of_read {tokens : List FileToken} (readable : nesting.read line = .ok tokens) :
    nesting.consume line = { nesting with pending? := none }.run tokens := by
  simp only [consume, readable]

theorem consume_cases (nesting : Nesting) (line : Text) :
    (∃ tokens, nesting.read line = .ok tokens ∧
        nesting.consume line = { nesting with pending? := none }.run tokens) ∨
      ∃ head shown, nesting.read line = .error (.malformedFragment head shown) ∧
        nesting.consume line =
          ({ nesting with pending? := none }, some (.malformedFragment head shown)) := by
  cases readable : nesting.read line with
  | ok tokens => exact .inl ⟨tokens, rfl, consume_of_read readable⟩
  | error fault =>
      have malformed : ∃ head shown, fault = .malformedFragment head shown := by
        simp only [read] at readable
        split at readable
        · cases readable
        · split at readable
          · cases readable
          · cases readable
            exact ⟨_, _, rfl⟩
      obtain ⟨head, shown, rfl⟩ := malformed
      exact .inr ⟨head, shown, rfl, by simp only [consume, readable]⟩

theorem rule_consume (nesting : Nesting) (line : Text) :
    (nesting.consume line).1.rule = nesting.rule := by
  rcases nesting.consume_cases line with ⟨tokens, -, consumed⟩ | ⟨head, shown, -, consumed⟩
  · rw [consumed]
    exact rule_run _ tokens
  · rw [consumed]

theorem call_consume_ok (followed : nesting.consume line = (next, none)) :
    nesting.call (.consume line) = (next, .ok none) := by
  simp only [call, followed]

theorem call_consume_error (faulty : nesting.consume line = (next, some fault)) :
    nesting.call (.consume line) = (next, .error fault) := by
  simp only [call, faulty]

theorem call_advance_ok (followed : nesting.consume line = (next, none)) :
    nesting.call (.advance line) = (next.current.2, .ok next.current.1) := by
  simp only [call, advance, followed]

theorem call_advance_error (faulty : nesting.consume line = (next, some fault)) :
    nesting.call (.advance line) = (next, .error fault) := by
  simp only [call, advance, faulty]

theorem call_cases (nesting : Nesting) (call : Call) :
    (∃ line next fault, nesting.consume line = (next, some fault) ∧
        nesting.call call = (next, .error fault)) ∨
      (∃ line next, nesting.consume line = (next, none) ∧
        (nesting.call call = (next, .ok none) ∨
          nesting.call call = (next.current.2, .ok next.current.1))) ∨
      nesting.call call = (nesting.current.2, .ok nesting.current.1) := by
  cases call with
  | consume line =>
      cases followed : nesting.consume line with
      | mk next fault? =>
          cases fault? with
          | none => exact .inr (.inl ⟨line, next, followed, .inl (call_consume_ok followed)⟩)
          | some fault => exact .inl ⟨line, next, fault, followed, call_consume_error followed⟩
  | advance line =>
      cases followed : nesting.consume line with
      | mk next fault? =>
          cases fault? with
          | none => exact .inr (.inl ⟨line, next, followed, .inr (call_advance_ok followed)⟩)
          | some fault => exact .inl ⟨line, next, fault, followed, call_advance_error followed⟩
  | current => exact .inr (.inr rfl)

theorem exists_consume_of_error {call : Call} (refused : (nesting.call call).2 = .error fault) :
    ∃ line, nesting.consume line = ((nesting.call call).1, some fault) := by
  rcases nesting.call_cases call with
    ⟨line, next, found, faulty, called⟩ | ⟨line, next, -, called | called⟩ | called
  · rw [called] at refused ⊢
    cases refused
    exact ⟨line, faulty⟩
  · simp [called] at refused
  · simp [called] at refused
  · simp [called] at refused

section Invariant

variable (kept : Nesting → Prop)
  (consume : ∀ (nesting : Nesting) (line : Text), kept nesting → kept (nesting.consume line).1)
  (current : ∀ nesting : Nesting, kept nesting → kept nesting.current.2)

include consume current

theorem call_keeps (holds : kept nesting) (call : Call) : kept (nesting.call call).1 := by
  rcases nesting.call_cases call with
    ⟨line, next, fault, followed, called⟩ | ⟨line, next, followed, called | called⟩ | called
  · have keeps := consume nesting line holds
    rw [followed] at keeps
    rwa [called]
  · have keeps := consume nesting line holds
    rw [followed] at keeps
    rwa [called]
  · have keeps := consume nesting line holds
    rw [followed] at keeps
    rw [called]
    exact current next keeps
  · rw [called]
    exact current nesting holds

theorem afterCalls_keeps (holds : kept nesting) (calls : List Call) :
    kept (nesting.afterCalls calls) := by
  induction calls generalizing nesting with
  | nil => exact holds
  | cons call calls ih => exact ih (call_keeps kept consume current holds call)

end Invariant

end Typeset.Nesting
