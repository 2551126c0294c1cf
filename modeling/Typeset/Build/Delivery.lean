import Typeset.Failure
import Typeset.Journal
import Typeset.Text.Lines

/-!
Running an engine and handing its output over line by line: first what it printed, then what it
printed as errors.  The two streams are cut differently.  Standard output is decoded piece by piece
as it comes, and loses all line ends behind a piece; error output is decoded as a whole.
-/

namespace Typeset

inductive OutputStream where
  | stdout
  | stderr
deriving DecidableEq, Repr

structure OutputLine where
  stream : OutputStream
  text : Text
deriving DecidableEq, Repr

structure Execution where
  stdout : Bytes := []
  stderr : Bytes := []
  status : Nat := 0
  workspace : Workspace

structure Program where
  path : Path
  run : Workspace → List Text → Execution

abbrev SearchPath := Text → Option Program

structure Invocation where
  engine : Text
  args : List Text
  workingDir : Path
deriving DecidableEq, Repr

structure Delivery where
  lines : List OutputLine
  ending : Except Failure Bool
  workspace : Workspace
  opening : Journal := []
  closing : Journal := []

namespace Execution

def lineFeed : UInt8 := 10

def stdoutLines (execution : Execution) : List Text :=
  (Text.cutAfter lineFeed execution.stdout).map fun piece =>
    Text.dropLineEnds (Text.decodeLossy piece)

def stderrLines (execution : Execution) : List Text :=
  Text.lines (Text.decodeLossy execution.stderr)

def lines (execution : Execution) : List OutputLine :=
  execution.stdoutLines.map (OutputLine.mk .stdout) ++
    execution.stderrLines.map (OutputLine.mk .stderr)

end Execution

namespace Invocation

def startNote (invocation : Invocation) (program : Program) : Note where
  level := .info
  text := "Running " ++ program.path ++ " ".toList ++ Text.quotedList invocation.args ++
    " in ".toList ++ invocation.workingDir

def endNote (invocation : Invocation) (status : Nat) : Note where
  level := .info
  text := invocation.engine ++ " exited with exit status: ".toList ++ Text.ofNat status

def startFault? (invocation : Invocation) (workspace : Workspace) : Option FileFault :=
  if invocation.args.any fun argument => '\x00' ∈ argument then some .invalidInput
  else
    match workspace.enter invocation.workingDir with
    | .error fault => some fault
    | .ok _ => none

def deliver (invocation : Invocation) (programs : SearchPath) (workspace : Workspace) :
    Delivery :=
  match programs invocation.engine with
  | none => { lines := [], ending := .error (.noEngine invocation.engine), workspace }
  | some program =>
      let opening := [invocation.startNote program]
      match invocation.startFault? workspace with
      | some fault =>
          { lines := [], ending := .error (.notStarted invocation.engine fault), workspace,
            opening }
      | none =>
          let execution := program.run workspace invocation.args
          { lines := execution.lines
            ending := .ok (execution.status = 0)
            workspace := execution.workspace
            opening
            closing := [invocation.endNote execution.status] }

end Invocation

def handOver (receive : σ → OutputLine → σ × Option Failure) (state : σ) :
    List OutputLine → σ × Option Failure
  | [] => (state, none)
  | line :: lines =>
      match receive state line with
      | (next, none) => handOver receive next lines
      | (next, some failure) => (next, some failure)

namespace Delivery

/-- A run that hands over given lines and then changes files.  A change that fails ends it. -/
def ofChanges (workspace : Workspace) (lines : List OutputLine) (changes : List FileChange)
    (ending : Except Failure Bool) : Delivery :=
  match workspace.changeAll changes with
  | .ok next => { lines, ending, workspace := next }
  | .error fault => { lines, ending := .error (.unwritable fault), workspace }

def run (delivery : Delivery) (receive : σ → OutputLine → σ × Option Failure) (state : σ) :
    σ × Except Failure Bool :=
  match handOver receive state delivery.lines with
  | (state, none) => (state, delivery.ending)
  | (state, some failure) => (state, .error failure)

def journal (delivery : Delivery) (taken : Bool) (between : Journal) : Journal :=
  delivery.opening ++ between ++ if taken then delivery.closing else []

end Delivery

end Typeset
