/-
Runs of the program. A run reads at most a settings file and a template, and ends in one of four
ways: with text to print, with a report to save, with a template that was rejected, or with a
mistake in how the program was called. Nothing is printed and nothing is changed unless the run
succeeds.
-/
import SqlTemplate.CommandLine.Arguments
import SqlTemplate.CommandLine.Help
import SqlTemplate.Files
import SqlTemplate.Template.Settings

namespace SqlTemplate.CommandLine

/-- Where a run gets its texts from: files by path, and the input. What cannot be read, or is no text, is not there. -/
structure Reading where
  file? : String → Option String
  input? : Option String

/-- Why a run fails: the template is rejected, or the call itself is at fault. -/
inductive Failure where
  | rejected (e : Error)
  | call (message : String)

/-- What a successful run has to do. -/
inductive Effect where
  | print (text : String)
  | save (path text : String)

def config (reading : Reading) (i : Invocation) : Except Failure Config := do
  let c ← match i.config with
    | none => pure Config.standard
    | some path =>
      match reading.file? path with
      | none => throw (.call ("Error reading config " ++ path ++ ": it cannot be read"))
      | some text =>
        match Config.read? text with
        | none => throw (.call Config.invalidText)
        | some c => pure c
  return { c with dialect := i.dialect.getD c.dialect }

def template (reading : Reading) (i : Invocation) : Except Failure String :=
  match i.source with
  | .text sql => .ok sql
  | .input =>
    match reading.input? with
    | some text => .ok text
    | none => .error (.call "Error reading stdin: it cannot be read")
  | .file path =>
    match reading.file? path with
    | some text => .ok text
    | none => .error (.call ("Error reading " ++ path ++ ": it cannot be read"))

/-- A merge needs something to merge; this is said before the template is read. -/
def checkRequest : Request → Except Failure Unit
  | .merge none none => .error (.call "merge needs --join, --where, or both")
  | _ => .ok ()

def answer (c : Config) (sql : String) (r : Request) : Except Failure Answer :=
  match r.answer c sql with
  | .ok a => .ok a
  | .error e => .error (.rejected e)

/-- What a run has to do. -/
def effect (reading : Reading) (i : Invocation) : Except Failure Effect := do
  let c ← config reading i
  checkRequest i.request
  let sql ← template reading i
  let text := (← answer c sql i.request).renderLines i.format
  match i.output with
  | none => return .print text
  | some path => return .save path text

/-! ## Outcomes -/

/-- How a run ended: its exit code, what it printed, what it complained of, and the files it left. -/
structure Outcome where
  exit : Nat
  output : String
  complaint : Option String
  files : Files

namespace Outcome

def failure (fs : Files) : Failure → Outcome
  | .rejected e => ⟨1, "", some ("Error: " ++ e.message), fs⟩
  | .call message => ⟨2, "", some message, fs⟩

def refusal (fs : Files) : Refusal → Outcome
  | .misuse => ⟨2, "", some misuse, fs⟩
  | .nothingAsked => ⟨2, "", some help, fs⟩
  | .helpAsked => ⟨0, help ++ "\n", none, fs⟩

/-- What saving says when it fails. -/
def saveFailure (e : Files.WriteError) : Failure := .call ("Error writing output: " ++ e.message)

def ofEffect (fs : Files) : Effect → Outcome
  | .print text => ⟨0, text, none, fs⟩
  | .save path text =>
    match fs.write path text with
    | .ok after => ⟨0, "", none, after⟩
    | .error e => failure fs (saveFailure e)

end Outcome

/-- A run that gets its texts from `reading` and may change the files `fs`. -/
def runOn (reading : Reading) (args : List String) (fs : Files) : Outcome :=
  match parse args with
  | .error r => .refusal fs r
  | .ok i =>
    match effect reading i with
    | .error f => .failure fs f
    | .ok e => .ofEffect fs e

/-- A run on files held in memory. -/
def run (args : List String) (input : Option String) (fs : Files) : Outcome := runOn ⟨fs.read?, input⟩ args fs

end SqlTemplate.CommandLine
