/-
The arguments of the command line. Options may stand before and after the name of the command; the
ones that every command takes may be given once on either side, and then the later one counts. An
argument that begins with a dash is an option, unless it is a single dash or comes after `--`.
-/
import SqlTemplate.Answer

namespace SqlTemplate.CommandLine

open Output (Format)

/-- The template to work on: given outright, in the input, or in a file. -/
inductive Source where
  | text (sql : String)
  | input
  | file (path : String)
deriving DecidableEq

/-- What a run of the program is to do. -/
structure Invocation where
  dialect : Option Dialect
  config : Option String
  format : Format
  verbose : Bool
  request : Request
  source : Source
  output : Option String
deriving DecidableEq

/-- Why arguments are no invocation. -/
inductive Refusal where
  | misuse
  | nothingAsked
  | helpAsked
deriving DecidableEq

/-! ## Options -/

inductive Flag where
  | dialect
  | config
  | format
  | verbose
  | file
  | output
  | join
  | predicate
deriving DecidableEq

namespace Flag

def name : Flag → String
  | .dialect => "dialect"
  | .config => "config"
  | .format => "format"
  | .verbose => "verbose"
  | .file => "file"
  | .output => "output"
  | .join => "join"
  | .predicate => "where"

def takesValue (f : Flag) : Bool := f != .verbose

/-- The options that go with any command. -/
def shared : List Flag := [.dialect, .config, .format, .verbose]

end Flag

/-- The commands, by name. -/
inductive Verb where
  | normalize
  | kind
  | tables
  | params
  | conditions
  | fields
  | analyze
  | merge
deriving DecidableEq

namespace Verb

def name : Verb → String
  | .normalize => "normalize"
  | .kind => "kind"
  | .tables => "tables"
  | .params => "params"
  | .conditions => "conditions"
  | .fields => "fields"
  | .analyze => "analyze"
  | .merge => "merge"

def ofName? (text : String) : Option Verb :=
  [normalize, kind, tables, params, conditions, fields, analyze, merge].find? (·.name == text)

/-- The options that may stand after the name of a command. -/
def flags (v : Verb) : List Flag :=
  Flag.shared ++ [.file] ++
    (match v with
    | .analyze => [.output]
    | .merge => [.join, .predicate]
    | _ => [])

end Verb

/-! ## Splitting -/

/-- Options with their values; the value of an option that takes none is empty. -/
abbrev Given := List (Flag × String)

/-- An argument by its form. -/
inductive Shape where
  | plain
  | escape
  | long (name : String) (value : Option String)
  | short

def shape (arg : String) : Shape :=
  match arg.toList with
  | ['-', '-'] => .escape
  | '-' :: '-' :: rest =>
    let name := rest.takeWhile (· != '=')
    match rest.drop name.length with
    | _ :: value => .long (String.ofList name) (some (String.ofList value))
    | [] => .long (String.ofList name) none
  | '-' :: _ :: _ => .short
  | _ => .plain

def isPlain (arg : String) : Bool :=
  match shape arg with
  | .plain => true
  | _ => false

def isHelp (arg : String) : Bool := arg == "-h" || arg == "--help"

def flagNamed? (allowed : List Flag) (name : String) : Option Flag := allowed.find? (·.name == name)

/-- An option with its value, which may be attached to it or be the next argument; none is given
twice. The arguments after it are returned. -/
def option (allowed : List Flag) (seen : Given) (name : String) (value : Option String) (rest : List String) :
    Except Refusal ((Flag × String) × List String) :=
  match flagNamed? allowed name with
  | none => .error .misuse
  | some f =>
    if seen.any (·.1 == f) then .error .misuse
    else if !f.takesValue then (if value.isSome then .error .misuse else .ok ((f, ""), rest))
    else
      match value, rest with
      | some v, _ => .ok ((f, v), rest)
      | none, v :: rest => if isPlain v then .ok ((f, v), rest) else .error .misuse
      | none, [] => .error .misuse

theorem option_length {allowed : List Flag} {seen : Given} {name : String} {value : Option String}
    {rest : List String} {p : (Flag × String) × List String} (h : option allowed seen name value rest = .ok p) :
    p.2.length ≤ rest.length := by
  unfold option at h
  repeat' split at h
  all_goals cases h <;> simp

/-- The options before the first argument that is none, and the arguments from there on. -/
def leading (seen : Given) (args : List String) : Except Refusal (Given × List String) :=
  match args with
  | [] => .ok (seen, [])
  | arg :: rest =>
    if isHelp arg then .error .helpAsked
    else
      match shape arg with
      | .long name value =>
        match h : option Flag.shared seen name value rest with
        | .ok p => have := option_length h; leading (seen ++ [p.1]) p.2
        | .error e => .error e
      | .short => .error .misuse
      | _ => .ok (seen, arg :: rest)
termination_by args.length
decreasing_by simp only [List.length_cons]; omega

/-- Options and operands in any order; after `--` there are only operands. -/
def mixed (allowed : List Flag) (seen : Given) (args : List String) : Except Refusal (Given × List String) :=
  match args with
  | [] => .ok (seen, [])
  | arg :: rest =>
    if isHelp arg then .error .helpAsked
    else
      match shape arg with
      | .long name value =>
        match h : option allowed seen name value rest with
        | .ok p => have := option_length h; mixed allowed (seen ++ [p.1]) p.2
        | .error e => .error e
      | .short => .error .misuse
      | .escape => .ok (seen, rest)
      | .plain => do
        let (given, operands) ← mixed allowed seen rest
        return (given, arg :: operands)
termination_by args.length
decreasing_by all_goals simp only [List.length_cons]; omega

/-! ## Values -/

/-- The value of an option; one given after the command's name counts before one given earlier. -/
def valueOf? (given : Given) (f : Flag) : Option String := (given.reverse.find? (·.1 == f)).map Prod.snd

/-- Whether an option can have this value. A path is any text but the empty one. -/
def readable (f : Flag) (text : String) : Bool :=
  match f with
  | .dialect => (Dialect.ofName? text).isSome
  | .format => (Format.ofName? text).isSome
  | .config | .file | .output => !text.isEmpty
  | .verbose | .join | .predicate => true

/-- The template comes from one operand or from a file, not from both. -/
def source (operands : List String) (file : Option String) : Except Refusal Source :=
  match operands, file with
  | [], some path => .ok (.file path)
  | ["-"], none => .ok .input
  | [sql], none => .ok (.text sql)
  | _, _ => .error .misuse

def Verb.request (v : Verb) (given : Given) : Request :=
  match v with
  | .normalize => .normalize
  | .kind => .kind
  | .tables => .tables
  | .params => .parameters
  | .conditions => .conditions
  | .fields => .fields
  | .analyze => .analyze
  | .merge => .merge (valueOf? given .join) (valueOf? given .predicate)

def invocation (v : Verb) (given : Given) (operands : List String) : Except Refusal Invocation := do
  -- also the values that others override have to be readable
  if !given.all fun g => readable g.1 g.2 then throw .misuse
  let src ← source operands (valueOf? given .file)
  return {
    dialect := (valueOf? given .dialect).bind Dialect.ofName?
    config := valueOf? given .config
    format := ((valueOf? given .format).bind Format.ofName?).getD .text
    verbose := (valueOf? given .verbose).isSome
    request := v.request given
    source := src
    output := valueOf? given .output }

/-- The invocation that arguments spell. -/
def parse (args : List String) : Except Refusal Invocation := do
  let (given, rest) ← leading [] args
  match rest with
  | [] => throw (if given.isEmpty then .nothingAsked else .misuse)
  | ["--"] => throw (if given.isEmpty then .nothingAsked else .misuse)
  | "help" :: _ => throw .helpAsked
  | name :: more =>
    match Verb.ofName? name with
    | none => throw .misuse
    | some v =>
      let (own, operands) ← mixed v.flags [] more
      invocation v (given ++ own) operands

end SqlTemplate.CommandLine
