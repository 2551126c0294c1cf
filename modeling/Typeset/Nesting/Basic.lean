import Typeset.Nesting.OpenFiles
import Typeset.Nesting.Strict
import Typeset.Nesting.Joined

/-!
Following the nesting of files through the output.  A line is first read into file tokens, without
regard to the open files, and the tokens then act on them one after the other.
-/

namespace Typeset

inductive NestingRule where
  /-- Absolute paths only, each line for itself. -/
  | strict
  /-- Any path, joined over full lines. -/
  | fragment
deriving DecidableEq, Repr

namespace NestingRule

def all : List NestingRule := [strict, fragment]

def name : NestingRule → Text
  | strict => "strict"
  | fragment => "fragment"

theorem mem_all (rule : NestingRule) : rule ∈ all := by
  cases rule <;> simp [all]

end NestingRule

inductive NestingFault where
  | underflow
  /-- A pending path cannot be continued over a line feed. -/
  | malformedFragment (head line : Text)
deriving DecidableEq, Repr

def NestingFault.message : NestingFault → Text
  | .underflow => "closing parenthesis with no open file"
  | .malformedFragment head line =>
      "cannot continue wrapped path `" ++ head ++ "` with " ++ Text.quoted line

structure Nesting where
  rule : NestingRule
  files : OpenFiles := {}
  /-- The start of a path that the next line continues. -/
  pending? : Option Text := none
deriving DecidableEq, Repr

namespace Nesting

def start (rule : NestingRule) : Nesting where
  rule := rule

def apply (nesting : Nesting) : FileToken → Except NestingFault Nesting
  | .opened path => .ok { nesting with files := nesting.files.push path }
  | .closed =>
      match nesting.files.pop? with
      | none => .error .underflow
      | some (_, outer) => .ok { nesting with files := outer }
  | .pair => .ok nesting
  | .passed _ => .ok nesting
  | .wrapped head => .ok { nesting with pending? := some head }

def run (nesting : Nesting) : List FileToken → Nesting × Option NestingFault
  | [] => (nesting, none)
  | token :: tokens =>
      match nesting.apply token with
      | .ok next => next.run tokens
      | .error fault => (nesting, some fault)

def read (nesting : Nesting) (line : Text) : Except NestingFault (List FileToken) :=
  let line := Text.dropLineEnds line
  match nesting.rule with
  | .strict => .ok (FileToken.Strict.tokens line)
  | .fragment =>
      match FileToken.Joined.tokens? nesting.pending? line with
      | some tokens => .ok tokens
      | none => .error (.malformedFragment (nesting.pending?.getD []) line)

/-- Follows one line.  A fault leaves the effect of the tokens before it; nothing stays pending. -/
def consume (nesting : Nesting) (line : Text) : Nesting × Option NestingFault :=
  let taken := { nesting with pending? := none }
  match nesting.read line with
  | .ok tokens => taken.run tokens
  | .error fault => (taken, some fault)

/-- The file being read, and the state in which entries without a path are forgotten. -/
def current (nesting : Nesting) : Option Path × Nesting :=
  (nesting.files.current?, { nesting with files := nesting.files.settle })

def noteOf (nesting : Nesting) : FileToken → Journal
  | .opened path => [nesting.files.enterNote path]
  | .closed =>
      match nesting.files.pop? with
      | none => []
      | some (path, outer) => [OpenFiles.leaveNote path outer]
  | .pair => []
  | .passed path =>
      [{ level := .debug, text := "wrapped file " ++ Text.quoted path ++ " opened and closed" }]
  | .wrapped head =>
      [{ level := .debug, text := "path " ++ Text.quoted head ++ " wrapped at end of line" }]

def journalOf (nesting : Nesting) : List FileToken → Journal
  | [] => []
  | token :: tokens =>
      match nesting.apply token with
      | .ok next => nesting.noteOf token ++ next.journalOf tokens
      | .error _ => []

def journal (nesting : Nesting) (line : Text) : Journal :=
  match nesting.read line with
  | .ok tokens => nesting.journalOf tokens
  | .error _ => []

@[simp] theorem run_nil (nesting : Nesting) : nesting.run [] = (nesting, none) := rfl

theorem run_cons_ok {nesting next : Nesting} {token : FileToken}
    (h : nesting.apply token = .ok next) (tokens : List FileToken) :
    nesting.run (token :: tokens) = next.run tokens := by
  simp [run, h]

theorem run_append (nesting : Nesting) (first second : List FileToken) :
    nesting.run (first ++ second) =
      match nesting.run first with
      | (next, none) => next.run second
      | faulty => faulty := by
  induction first generalizing nesting with
  | nil => rfl
  | cons token tokens ih =>
      simp only [List.cons_append, run]
      cases nesting.apply token with
      | ok next => exact ih next
      | error fault => rfl

end Nesting

end Typeset
