/-
The program: what it reads is gathered first, then the run is worked out, then its effect is carried
out.
-/
import SqlTemplate.CommandLine.Run

open SqlTemplate.CommandLine

def readFile? (path : String) : IO (Option String) := do
  try return some (← IO.FS.readFile path)
  catch _ => return none

/-- The rest of a stream, after what was read of it so far. -/
partial def readAll (stream : IO.FS.Stream) (soFar : String) : IO String := do
  let line ← stream.getLine
  if line.isEmpty then return soFar else readAll stream (soFar ++ line)

def readInput? : IO (Option String) := do
  try return some (← readAll (← IO.getStdin) "")
  catch _ => return none

/-- The texts that an invocation asks for. -/
def gather (i : Invocation) : IO Reading := do
  let paths := i.config.toList ++ (match i.source with | .file path => [path] | _ => [])
  let texts ← paths.mapM fun path => do return (path, ← readFile? path)
  let input ← if i.source == .input then readInput? else pure none
  return ⟨fun path => (texts.find? (·.1 == path)).bind Prod.snd, input⟩

/-- The directory part of a path. -/
def directoryOf (path : String) : String := String.ofList (path.toList.reverse.dropWhile (· != '/')).reverse

def complain (message : String) (exit : UInt32) : IO UInt32 := do
  (← IO.getStderr).putStrLn message
  return exit

def fail : Failure → IO UInt32
  | .rejected e => complain ("Error: " ++ e.message) 1
  | .call message => complain message 2

def save (verbose : Bool) (path text : String) : IO UInt32 := do
  try
    let directory := directoryOf path
    if !directory.isEmpty then IO.FS.createDirAll directory
    IO.FS.writeFile path text
    if verbose then (← IO.getStderr).putStrLn ("Wrote report to " ++ path)
    return 0
  catch e => fail (.call ("Error writing output: " ++ toString e))

def main (args : List String) : IO UInt32 := do
  match parse args with
  | .error .misuse => complain misuse 2
  | .error .nothingAsked => complain help 2
  | .error .helpAsked => IO.println help; return 0
  | .ok i =>
    match effect (← gather i) i with
    | .error f => fail f
    | .ok (.print text) => IO.print text; return 0
    | .ok (.save path text) => save i.verbose path text
