/-
Parsers over the tokens of a statement, blanks left out: the small steps that every rule of the
grammar is made of, and the rules that other rules call. A rule that may contain itself is called
through `Rules`, one level down; a statement nests no deeper than there are levels.
-/
import SqlTemplate.Dialect
import SqlTemplate.Tree.Print

namespace SqlTemplate.Grammar

/-- Why a rule does not apply: an unexpected token, which has no place at the end of the text, or too deep a nesting. -/
inductive Failure where
  | unexpected (place : Option Location)
  | tooDeep
deriving DecidableEq

abbrev Parser := StateT (List Lexeme) (Except Failure)

namespace Parser

/-! ## Single tokens -/

def peek : Parser (Option Token) := fun ts => .ok (ts.head?.map Lexeme.token, ts)

/-- The token after `n` others. -/
def peekAt (n : Nat) : Parser (Option Token) := fun ts => .ok (ts[n]?.map Lexeme.token, ts)

def peekKeyword : Parser (Option String) := fun ts => .ok (ts.head?.bind (·.token.keyword?), ts)

def peekKeywordAt (n : Nat) : Parser (Option String) := fun ts => .ok (ts[n]?.bind (·.token.keyword?), ts)

def place : Parser (Option Location) := fun ts => .ok (ts.head?.map Lexeme.location, ts)

def failAt {α : Type} (l : Option Location) : Parser α := fun _ => .error (.unexpected l)

/-- The next token is not what the rule calls for. -/
def unexpected {α : Type} : Parser α := fun ts => .error (.unexpected (ts.head?.map Lexeme.location))

def skip : Parser Unit := fun ts => .ok ((), ts.drop 1)

/-- All that is left. -/
def tokens : Parser (List Lexeme) := fun ts => .ok (ts, ts)

/-- The number of tokens left, which bounds every loop. -/
def remaining : Parser Nat := fun ts => .ok (ts.length, ts)

/-- Takes the next token if it passes the test. -/
def takeIf (p : Token → Bool) : Parser Bool := fun ts =>
  match ts with
  | t :: rest => if p t.token then .ok (true, rest) else .ok (false, ts)
  | [] => .ok (false, [])

def isSymbol (text : String) (t : Token) : Bool :=
  match t with
  | .symbol s => s == text
  | _ => false

def isKeyword (k : String) (t : Token) : Bool := t.keyword? == some k

def takeSymbol (text : String) : Parser Bool := takeIf (isSymbol text)

def takeKeyword (k : String) : Parser Bool := takeIf (isKeyword k)

/-- Takes something only if it is `allowed` here. -/
def takeWhere (allowed : Bool) (p : Parser Bool) : Parser Bool := if allowed then p else return false

def expectSymbol (text : String) : Parser Unit := do
  if ← takeSymbol text then pure () else unexpected

def expectKeyword (k : String) : Parser Unit := do
  if ← takeKeyword k then pure () else unexpected

def nextIsSymbol (text : String) : Parser Bool := do return (← peek).any (isSymbol text)

def nextIsKeyword (k : String) : Parser Bool := do return (← peekKeyword) == some k

/-- Whether the tokens begin with these keywords. -/
def beginsWith : List String → List Lexeme → Bool
  | [], _ => true
  | _ :: _, [] => false
  | k :: ks, t :: ts => t.token.keyword? == some k && beginsWith ks ts

/-- Takes all of these keywords or none of them. -/
def takeKeywords (ks : List String) : Parser Bool := fun ts =>
  if beginsWith ks ts then .ok (true, ts.drop ks.length) else .ok (false, ts)

def expectKeywords : List String → Parser Unit
  | [] => pure ()
  | k :: ks => do expectKeyword k; expectKeywords ks

/-- Takes the next token if it is one of these keywords, and says which. -/
def takeOneOf (ks : List String) : Parser (Option String) := fun ts =>
  match ts with
  | t :: rest =>
    match t.token.keyword? with
    | some k => if ks.contains k then .ok (some k, rest) else .ok (none, ts)
    | none => .ok (none, ts)
  | [] => .ok (none, [])

def expectOneOf (ks : List String) : Parser String := do
  match ← takeOneOf ks with
  | some k => pure k
  | none => unexpected

/-- Takes the first of several keyword sequences that is there. -/
def takeAny : List (List String) → Parser Bool
  | [] => return false
  | ks :: rest => do if ← takeKeywords ks then return true else takeAny rest

def expectAny (choices : List (List String)) : Parser Unit := do
  if ← takeAny choices then pure () else unexpected

/-! ## Choices and lists -/

/-- Tries a rule and takes nothing if it does not apply. Too deep a nesting is final. -/
def attempt {α : Type} (p : Parser α) : Parser (Option α) := fun ts =>
  match p ts with
  | .ok (a, rest) => .ok (some a, rest)
  | .error .tooDeep => .error .tooDeep
  | .error (.unexpected _) => .ok (none, ts)

/-- A rule, if a keyword stands before it. -/
def afterKeyword {α : Type} (k : String) (p : Parser α) : Parser (Option α) := do
  if ← takeKeyword k then return some (← p) else return none

def afterKeywords {α : Type} (ks : List String) (p : Parser α) : Parser (Option α) := do
  if ← takeKeywords ks then return some (← p) else return none

def parenthesized {α : Type} (p : Parser α) : Parser α := do
  expectSymbol "("
  let a ← p
  expectSymbol ")"
  return a

def commaLoop {α : Type} (p : Parser α) : Nat → Parser (List α)
  | 0 => return []
  | n + 1 => do
    let a ← p
    if ← takeSymbol "," then return a :: (← commaLoop p n) else return [a]

/-- One or more, with commas between them. -/
def commaList {α : Type} (p : Parser α) : Parser (List α) := do
  commaLoop p ((← remaining) + 1)

/-- None at all before the closing symbol, or as many as there are. -/
def commaListUntil {α : Type} (closing : String) (p : Parser α) : Parser (List α) := do
  if ← nextIsSymbol closing then return [] else commaList p

def repeatLoop {α : Type} (p : Parser (Option α)) : Nat → Parser (List α)
  | 0 => return []
  | n + 1 => do
    match ← p with
    | some a => return a :: (← repeatLoop p n)
    | none => return []

/-- As often as the rule applies. -/
def many {α : Type} (p : Parser (Option α)) : Parser (List α) := do
  repeatLoop p (← remaining)

/-- Tries rules in turn; if one applies, the others are what is left. -/
def takeFirst : List (Parser Bool) → Parser (Option (List (Parser Bool)))
  | [] => return none
  | p :: ps => do
    if ← p then return some ps
    else return (← takeFirst ps).map (p :: ·)

def anyOrderLoop : Nat → List (Parser Bool) → Parser Unit
  | 0, _ => pure ()
  | n + 1, ps => do
    match ← takeFirst ps with
    | some rest => anyOrderLoop n rest
    | none => pure ()

/-- Each of the rules at most once, in any order. -/
def anyOrder (ps : List (Parser Bool)) : Parser Unit := anyOrderLoop ps.length ps

end Parser

open SqlTemplate.Grammar.Parser

/-! ## Names -/

/-- An identifier: a word, or a string literal in its place. -/
def ident : Parser Ident := do
  match ← peek with
  | some (.word w) => skip; return w.toIdent
  | some (.string s) => skip; return ⟨s, some '\x27'⟩
  | some (.doubleQuoted s) => skip; return ⟨s, some '"'⟩
  | _ => unexpected

def nameLoop : Nat → Parser ObjectName
  | 0 => return []
  | n + 1 => do
    let i ← ident
    if ← takeSymbol "." then return i :: (← nameLoop n) else return [i]

/-- A possibly qualified name. In one dialect its second part may be left out, as in `a..b`. -/
def objectName (d : Dialect) : Parser ObjectName := do
  let fuel := (← remaining) + 1
  let first ← ident
  if ← takeSymbol "." then
    if ← takeWhere (d == .mssql) (takeSymbol ".") then return first :: ⟨"", none⟩ :: (← nameLoop fuel)
    else return first :: (← nameLoop fuel)
  else return [first]

/-- Identifiers in parentheses; with `mayBeEmpty` also `()`. -/
def columnList (mayBeEmpty : Bool) : Parser (List Ident) := do
  expectSymbol "("
  if ← takeWhere mayBeEmpty (takeSymbol ")") then return []
  let names ← commaList ident
  expectSymbol ")"
  return names

def optionalColumnList (mayBeEmpty : Bool) : Parser (List Ident) := do
  if ← nextIsSymbol "(" then columnList mayBeEmpty else return []

/-- Qualified names in parentheses. -/
def nameList (d : Dialect) : Parser (List ObjectName) := parenthesized (commaList (objectName d))

/-! ## Literals -/

/-- An unsigned number of at most 64 bits. -/
def literalNumber : Parser Nat := do
  match ← peek with
  | some (.number text _) =>
    match Error.number? text.toList with
    | some n => skip; return n
    | none => unexpected
  | _ => unexpected

/-- Words `TRUE` and `FALSE` stand for truth values. -/
def hasBooleans (d : Dialect) : Bool := d != .mssql

/-- What follows the colon or at-sign of a placeholder. -/
def placeholderName : Parser String := do
  match ← peek with
  | some (.word w) => skip; return w.text
  | some (.number text false) => skip; return text
  | _ => unexpected

/-- A string in a place that takes nothing else: a literal, or a word that is no keyword. -/
def literalString (d : Dialect) : Parser String := do
  match ← peek with
  | some (.word w) => if w.keyword.isNone then skip; return w.text else unexpected
  | some (.string s) => skip; return s
  | some (.doubleQuoted s) => skip; return s
  | some (.escaped s) => if d == .postgresql || d == .generic then skip; return s else unexpected
  | some (.unicode s) => skip; return s
  | _ => unexpected

def value (d : Dialect) : Parser Value := do
  match ← peek with
  | some (.word w) =>
    match w.keyword, w.quote with
    | some "NULL", _ => skip; return .null
    | some "TRUE", _ => if hasBooleans d then skip; return .boolean true else unexpected
    | some "FALSE", _ => if hasBooleans d then skip; return .boolean false else unexpected
    | none, some '"' => skip; return .doubleQuoted w.text
    | none, some '\x27' => skip; return .string w.text
    | _, _ => unexpected
  | some (.number text long) => skip; return .number text long
  | some (.string s) => skip; return .string s
  | some (.doubleQuoted s) => skip; return .doubleQuoted s
  | some (.national s) => skip; return .national s
  | some (.escaped s) => skip; return .escaped s
  | some (.unicode s) => skip; return .unicode s
  | some (.hex s) => skip; return .hex s
  | some (.bytes q s) => skip; return .bytes q s
  | some (.raw q s) => skip; return .raw q s
  | some (.tripleRaw q s) => skip; return .tripleRaw q s
  | some (.dollarQuoted tag s) => skip; return .dollarQuoted tag s
  | some (.placeholder s) => skip; return .placeholder s
  | some (.symbol ":") => skip; return .placeholder (":" ++ (← placeholderName))
  | some (.symbol "@") => skip; return .placeholder ("@" ++ (← placeholderName))
  | _ => unexpected

/-- A number or a placeholder for one. -/
def numberValue (d : Dialect) : Parser Value := do
  let start ← place
  match ← value d with
  | .number text long => return .number text long
  | .placeholder text => return .placeholder text
  | _ => failAt start

/-! ## Rules that call each other -/

/-- A type, and whether the bracket at its end also closes the type around it, as `>>` does. -/
structure OpenType where
  type : DataType
  closes : Bool

/-- The rules of one level. `expr` takes the binding strength that an operator must exceed to belong to it; in the
`relationships` of rows, and in nothing else, PRIOR is an operator, which `hasPrior` tells. -/
structure Rules where
  hasPrior : Bool
  expr : Nat → Parser Expr
  operand : Parser Expr
  openType : Parser OpenType
  query : Parser Query
  tableTree : Parser TableTree
  statement : Parser Statement
  relationships : Parser (List Expr)

/-- Below the last level nothing applies. -/
def Rules.exhausted : Rules where
  hasPrior := false
  expr _ := fun _ => .error .tooDeep
  operand := fun _ => .error .tooDeep
  openType := fun _ => .error .tooDeep
  query := fun _ => .error .tooDeep
  tableTree := fun _ => .error .tooDeep
  statement := fun _ => .error .tooDeep
  relationships := fun _ => .error .tooDeep

/-- A whole expression. -/
def Rules.full (r : Rules) : Parser Expr := r.expr 0

/-- A type that stands alone. -/
def Rules.dataType (r : Rules) : Parser DataType := do
  let t ← r.openType
  if t.closes then failAt none else return t.type

end SqlTemplate.Grammar
