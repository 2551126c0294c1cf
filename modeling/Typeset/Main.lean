import Typeset.Command.Run

/-!
The program.  It looks at the files that the request is about, takes the engine's output from the
standard input, and prints what the report says.
-/

namespace Typeset.Main

def usage : String :=
  "Usage: build [OPTIONS] FILE    give feedback on the output of the engine for FILE\n" ++
    "       parse [OPTIONS] FILE    give feedback on the output saved in FILE\n"

def leadingPaths (path : Path) : List Path :=
  (List.range path.length).filterMap fun count =>
    if path[count]? = some '/' ∧ 0 < count then some (path.take count) else none

def observe (workspace : Workspace) (path : Path) : IO Workspace := do
  let here ← IO.currentDir
  let mut workspace := workspace
  for leading in leadingPaths path do
    if ← (here / String.ofList leading).isDir then
      workspace := workspace.withDirectory leading
  if ← (here / String.ofList path).isDir then return workspace.withDirectory path
  try
    let content ← IO.FS.readBinFile (here / String.ofList path)
    return workspace.withFile path content.toList
  catch _ => return workspace

def lookAround (context : CommandContext) : Request → IO CommandContext
  | .replay file _ => return { context with workspace := ← observe context.workspace file }
  | .build file request => do
      let path := BuildRequest.absoluteFile context file
      let workspace ← observe context.workspace (Settings.fileFor path)
      match Settings.resolve workspace context.environment path with
      | .error _ => return { context with workspace }
      | .ok settings =>
          let document := Plan.documentFor (request.override settings) path
          let workspace ← observe workspace document
          let workspace ← observe workspace (Path.withExtension "pdf" document)
          return { context with workspace }

def printed (output : Bytes) : SearchPath := fun engine =>
  some { path := engine, run := fun workspace _ => { stdout := output, workspace } }

def putNote (note : Note) : IO Unit :=
  match note.level with
  | .error => IO.eprintln ("error: " ++ String.ofList note.text)
  | .warn => IO.eprintln ("warning: " ++ String.ofList note.text)
  | _ => pure ()

def putFailure (failure : Failure) : IO Unit := do
  IO.eprintln ("Error: " ++ String.ofList failure.message)
  if let some cause := failure.cause? then
    IO.eprintln ("\nCaused by:\n    " ++ String.ofList cause.message)

def environment : IO Environment := do
  let mut found : List (Text × Text) := []
  for name in Environment.names do
    if let some value ← IO.getEnv (String.ofList name) then
      found := (name, value.toList) :: found
  return Environment.ofLookup fun name => found.lookup name

def context (request : Request) : IO CommandContext := do
  let home := Path.names (← IO.currentDir).toString.toList
  let output ← match request with
    | .build .. => (← IO.getStdin).readBinToEnd
    | .replay .. => pure ByteArray.empty
  let context : CommandContext := {
    workspace := { home }, environment := ← environment, programs := printed output.toList }
  lookAround context request

def run (arguments : List Text) : IO UInt32 := do
  match Request.ofArguments arguments with
  | .error refusal =>
      if refusal = .helpAsked then IO.print usage else IO.eprint usage
      return UInt32.ofNat refusal.status
  | .ok request =>
      let report := request.run (← context request)
      IO.print (String.ofList report.stdout)
      report.journal.forM putNote
      report.failure?.forM putFailure
      return UInt32.ofNat report.status

end Typeset.Main

def main (arguments : List String) : IO UInt32 :=
  Typeset.Main.run (arguments.map String.toList)
