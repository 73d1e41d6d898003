/-
Templates are SQL texts with named placeholders such as `#{user.id, jdbcType=INT}`. Normalizing a
template writes a positional `?` for each of them, wherever the text stands in code: inside string
literals, quoted identifiers, dollar-quoted strings and comments nothing is replaced. Every `?` in
code position of the result has an origin: it was there before, or it stands for a name.

The scanner is a state machine over characters. A step consumes at least one character and yields
the text to write and the origin recorded, if any; the text is the text read, except at a named
placeholder.
-/
import SqlTemplate.Dialect

namespace SqlTemplate.Template

inductive Origin where
  | positional
  | named (name : String)
deriving DecidableEq

/-- The name that a placeholder had in the template. -/
def Origin.name? : Origin → Option String
  | .named name => some name
  | .positional => none

/-- The region of the text that the scanner is in. -/
inductive Region where
  | code
  | quoted (close : Char)
  | dollarQuoted (delimiter : List Char)
  | lineComment
  | blockComment
deriving DecidableEq

/-- `previous` is the character before the current one, as the dollar rule sees it. -/
structure Scan where
  region : Region
  previous : Option Char
deriving DecidableEq

def Scan.start : Scan := ⟨.code, none⟩

def isWordChar (c : Char) : Bool := Text.isAlnum c || c == '_' || c == '$'

/-! ## Delimiters -/

def isTag : List Char → Bool
  | [] => true
  | c :: cs => (Text.isLetter c || c == '_') && cs.all fun d => Text.isAlnum d || d == '_'

/-- The delimiter `$$` or `$tag$` that `cs` begins with. -/
def dollarDelimiter? (cs : List Char) : Option (List Char) :=
  match cs with
  | '$' :: body =>
    let tag := body.takeWhile (· != '$')
    if tag.length < body.length && isTag tag then some ('$' :: tag ++ ['$']) else none
  | _ => none

def isNameChar (c : Char) : Bool :=
  Text.isAlnum c || c == '_' || c == '.' || c == '$' || c == '[' || c == ']'

def endsInner (c : Char) : Bool := c == '\x7d' || c == '\n' || c == '\x7b'

/-- The name before the first comma of a placeholder's inner text, if it is a name. -/
def innerName? (inner : List Char) : Option String :=
  let name := Text.trimChars (inner.takeWhile (· != ','))
  if !inner.contains '?' && !name.isEmpty && name.all isNameChar then some (String.ofList name) else none

/-- The named placeholder that `cs` begins with: its name and its length. -/
def placeholder? (cs : List Char) : Option (String × Nat) :=
  match cs with
  | '#' :: '\x7b' :: body =>
    let inner := body.takeWhile fun c => !endsInner c
    match body.drop inner.length with
    | '\x7d' :: _ => (innerName? inner).map fun name => (name, inner.length + 3)
    | _ => none
  | _ => none

/-! ## One step -/

/-- What one step reads (`read` characters), writes and records, and where it leads. -/
structure Step where
  read : Nat
  written : List Char
  origin : Option Origin
  next : Scan

/-- Copy one character and remember it. -/
def copy (region : Region) (c : Char) : Step := ⟨1, [c], none, ⟨region, some c⟩⟩

/-- Copy several characters; `previous` is what the dollar rule sees next. -/
def copyAll (region : Region) (cs : List Char) (previous : Option Char) : Step :=
  ⟨cs.length, cs, none, ⟨region, previous⟩⟩

def stepCode (d : Dialect) (previous : Option Char) (c : Char) (rest : List Char) : Step :=
  if c == '\x27' || c == '"' || c == '\x60' then copy (.quoted c) c
  else if c == '-' && rest.head? == some '-' then copy .lineComment c
  else if c == '/' && rest.head? == some '*' then copyAll .blockComment ['/', '*'] previous
  else if c == '?' then ⟨1, [c], some .positional, ⟨.code, some c⟩⟩
  else if c == '#' then
    match placeholder? (c :: rest) with
    | some (name, length) => ⟨length, ['?'], some (.named name), ⟨.code, some '?'⟩⟩
    | none => copy (if d.hashComments then .lineComment else .code) c
  else if c == '$' && !previous.any isWordChar then
    match dollarDelimiter? (c :: rest) with
    | some delimiter => copyAll (.dollarQuoted delimiter) delimiter (some '$')
    | none => copy .code c
  else copy .code c

def stepQuoted (close : Char) (previous : Option Char) (c : Char) (rest : List Char) : Step :=
  if c == '\\' && close == '\x27' then copyAll (.quoted close) (c :: rest.take 1) previous
  else if c == close then
    if rest.head? == some close then copyAll (.quoted close) [c, close] previous else copy .code c
  else copy (.quoted close) c

/-- The step at the character `c`, followed by `rest`. -/
def step (d : Dialect) (s : Scan) (c : Char) (rest : List Char) : Step :=
  match s.region with
  | .code => stepCode d s.previous c rest
  | .quoted close => stepQuoted close s.previous c rest
  | .dollarQuoted delimiter =>
    if delimiter.isPrefixOf (c :: rest) then copyAll .code delimiter (some '$') else copy (.dollarQuoted delimiter) c
  | .lineComment => copy (if c == '\n' then .code else .lineComment) c
  | .blockComment =>
    if c == '*' && rest.head? == some '/' then copyAll .code ['*', '/'] (some '/') else copy .blockComment c

/-! ## Whole texts -/

/-- The text written and the origins recorded from state `s` on; `skip` characters are already read. -/
def scan (d : Dialect) (s : Scan) (skip : Nat) : List Char → List Char × List Origin
  | [] => ([], [])
  | c :: cs =>
    match skip with
    | k + 1 => scan d s k cs
    | 0 =>
      let st := step d s c cs
      let (text, origins) := scan d st.next (st.read - 1) cs
      (st.written ++ text, st.origin.toList ++ origins)

/-- The state in which scanning `cs` from `s` ends. -/
def endState (d : Dialect) (s : Scan) (skip : Nat) : List Char → Scan
  | [] => s
  | c :: cs =>
    match skip with
    | k + 1 => endState d s k cs
    | 0 =>
      let st := step d s c cs
      endState d st.next (st.read - 1) cs

/-- A template with its named placeholders replaced, and the origin of each `?` in code position. -/
structure Normalized where
  text : String
  origins : List Origin
deriving DecidableEq

def normalize (d : Dialect) (template : String) : Normalized :=
  let (text, origins) := scan d .start 0 template.toList
  ⟨String.ofList text, origins⟩

/-- The origins of a text whose named placeholders are left alone: only the `?` that it has itself. -/
def positionalOrigins (d : Dialect) (template : String) : List Origin :=
  (normalize d template).origins.filter (· == .positional)

end SqlTemplate.Template
