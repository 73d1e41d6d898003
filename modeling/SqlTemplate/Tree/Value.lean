/-
The parts of a syntax tree that hold no expressions: identifiers, literal values, operators, types,
and the small enumerations that say how a clause is spelled. Each has the text that it prints as.
-/
import SqlTemplate.Token.Basic

namespace SqlTemplate

/-! ## Identifiers -/

/-- Text between quotes. A quote inside is doubled, unless it already stands in a pair or after a backslash. -/
def doubleQuotes (quote : Char) (previous : Char) : List Char → List Char
  | [] => []
  | c :: cs =>
    if c == quote && previous != '\\' then
      match cs with
      | [] => [c, c]
      | e :: rest =>
        if e == quote then c :: c :: doubleQuotes quote c rest else c :: c :: doubleQuotes quote c (e :: rest)
    else c :: doubleQuotes quote (if c == quote then previous else c) cs
termination_by cs => cs.length

def quoteText (quote : Char) (text : String) : String :=
  quote.toString ++ String.ofList (doubleQuotes quote '\x00' text.toList) ++ quote.toString

structure Ident where
  text : String
  quote : Option Char
deriving DecidableEq

def Ident.print (i : Ident) : String :=
  match i.quote with
  | none => i.text
  | some '[' => "[" ++ i.text ++ "]"
  | some q => quoteText q i.text

def Word.toIdent (w : Word) : Ident := ⟨w.text, w.quote⟩

/-- A word as it stands between its quotes, with no quote doubled. -/
def Word.print (w : Word) : String :=
  match w.quote with
  | none => w.text
  | some '[' => "[" ++ w.text ++ "]"
  | some q => q.toString ++ w.text ++ q.toString

/-- A possibly qualified name. -/
abbrev ObjectName := List Ident

def ObjectName.print (name : ObjectName) : String := Text.join "." (name.map Ident.print)

/-- What a call calls, and whether the call stands in braces. -/
structure Callee where
  name : ObjectName
  braced : Bool
deriving DecidableEq

/-- A printed call in its braces. -/
def Callee.wrap (c : Callee) (text : String) : String := if c.braced then "\x7bfn " ++ text ++ "\x7d" else text

/-! ## Literals -/

inductive Value where
  | number (text : String) (long : Bool)
  | string (text : String)
  | doubleQuoted (text : String)
  | national (text : String)
  | escaped (text : String)
  | unicode (text : String)
  | hex (text : String)
  | bytes (quote : Char) (text : String)
  | raw (quote : Char) (text : String)
  | tripleRaw (quote : Char) (text : String)
  | dollarQuoted (tag : Option String) (text : String)
  | boolean (b : Bool)
  | null
  | placeholder (text : String)
deriving DecidableEq

/-- The spelling of a character in an escaped literal. -/
def escapeChar (c : Char) : List Char :=
  if c == '\x27' || c == '\\' then ['\\', c]
  else if c == '\n' then ['\\', 'n']
  else if c == '\t' then ['\\', 't']
  else if c == '\r' then ['\\', 'r']
  else [c]

def upperHex (width n : Nat) : List Char :=
  let ds := (Nat.toDigits 16 n).map Char.toUpper
  List.replicate (width - ds.length) '0' ++ ds

/-- The spelling of a character in a literal with Unicode escapes. -/
def unicodeEscape (c : Char) : List Char :=
  if c == '\x27' then [c, c]
  else if c == '\\' then [c, c]
  else if Text.isAscii c then [c]
  else if c.toNat ≤ 0xFFFF then '\\' :: upperHex 4 c.toNat
  else '\\' :: '+' :: upperHex 6 c.toNat

def Value.print : Value → String
  | .number text long => text ++ (if long then "L" else "")
  | .string text => quoteText '\x27' text
  | .doubleQuoted text => quoteText '"' text
  | .national text => "N'" ++ text ++ "'"
  | .escaped text => "E'" ++ String.ofList (text.toList.flatMap escapeChar) ++ "'"
  | .unicode text => "U&'" ++ String.ofList (text.toList.flatMap unicodeEscape) ++ "'"
  | .hex text => "X'" ++ text ++ "'"
  | .bytes q text => "B" ++ q.toString ++ text ++ q.toString
  | .raw q text => "R" ++ q.toString ++ text ++ q.toString
  | .tripleRaw q text =>
    let quotes := String.ofList [q, q, q]
    "R" ++ quotes ++ text ++ quotes
  | .dollarQuoted tag text =>
    let delimiter := "$" ++ tag.getD "" ++ "$"
    delimiter ++ text ++ delimiter
  | .boolean b => if b then "true" else "false"
  | .null => "NULL"
  | .placeholder text => text

/-! ## Operators -/

inductive UnaryOp where
  | not
  | sign (text : String)
  | factorial
deriving DecidableEq

/-- Binary operators; those that no analysis tells apart are known by their text alone. -/
inductive BinaryOp where
  | and
  | or
  | eq
  | notEq
  | lt
  | gt
  | ltEq
  | gtEq
  | spaceship
  | other (text : String)
deriving DecidableEq

def BinaryOp.print : BinaryOp → String
  | .and => "AND"
  | .or => "OR"
  | .eq => "="
  | .notEq => "<>"
  | .lt => "<"
  | .gt => ">"
  | .ltEq => "<="
  | .gtEq => ">="
  | .spaceship => "<=>"
  | .other text => text

/-- What can stand after `IS`. -/
inductive TruthTest where
  | null
  | isTrue
  | isFalse
  | unknown
deriving DecidableEq

def TruthTest.print : TruthTest → String
  | .null => "NULL"
  | .isTrue => "TRUE"
  | .isFalse => "FALSE"
  | .unknown => "UNKNOWN"

inductive PatternFamily where
  | like
  | iLike
  | similarTo
  | regexp
  | rLike
deriving DecidableEq

def PatternFamily.print : PatternFamily → String
  | .like => "LIKE"
  | .iLike => "ILIKE"
  | .similarTo => "SIMILAR TO"
  | .regexp => "REGEXP"
  | .rLike => "RLIKE"

inductive Quantifier where
  | any
  | some_
  | all
deriving DecidableEq

def Quantifier.print : Quantifier → String
  | .any => "ANY"
  | .some_ => "SOME"
  | .all => "ALL"

/-! ## Types -/

inductive TypeClass where
  | builtin
  | interval
  | custom
deriving DecidableEq

/-- A data type by its canonical spelling. -/
structure DataType where
  text : String
  kind : TypeClass
deriving DecidableEq

inductive CastStyle where
  | cast
  | tryCast
  | safeCast
  | doubleColon
deriving DecidableEq

/-- How a cast reads or writes a text: nothing, a pattern, or a pattern and a time zone. -/
abbrev CastFormat := List Value

def CastFormat.print (f : CastFormat) : String :=
  match f with
  | [] => ""
  | [pattern] => " FORMAT " ++ pattern.print
  | pattern :: zone :: _ => " FORMAT " ++ pattern.print ++ " AT TIME ZONE " ++ zone.print

/-! ## Spellings of clauses -/

structure AliasColumn where
  name : Ident
  type : Option DataType
deriving DecidableEq

structure TableAlias where
  name : Ident
  columns : List AliasColumn
deriving DecidableEq

def AliasColumn.print (c : AliasColumn) : String :=
  match c.type with
  | some t => c.name.print ++ " " ++ t.text
  | none => c.name.print

def TableAlias.print (a : TableAlias) : String :=
  if a.columns.isEmpty then a.name.print
  else a.name.print ++ " (" ++ Text.commas (a.columns.map AliasColumn.print) ++ ")"

/-- An alias after `AS`, or nothing. -/
def asAlias (aliasName : Option TableAlias) : String :=
  match aliasName with
  | some a => " AS " ++ a.print
  | none => ""

inductive SetOperator where
  | union
  | except
  | intersect
  | minus
deriving DecidableEq

def SetOperator.print : SetOperator → String
  | .union => "UNION"
  | .except => "EXCEPT"
  | .intersect => "INTERSECT"
  | .minus => "MINUS"

inductive JoinOperator where
  | join
  | inner
  | left
  | leftOuter
  | right
  | rightOuter
  | fullOuter
  | cross
  | semi
  | leftSemi
  | rightSemi
  | anti
  | leftAnti
  | rightAnti
  | crossApply
  | outerApply
  | straight
  | asOf
deriving DecidableEq

namespace JoinOperator

def print : JoinOperator → String
  | .join => "JOIN"
  | .inner => "INNER JOIN"
  | .left => "LEFT JOIN"
  | .leftOuter => "LEFT OUTER JOIN"
  | .right => "RIGHT JOIN"
  | .rightOuter => "RIGHT OUTER JOIN"
  | .fullOuter => "FULL JOIN"
  | .cross => "CROSS JOIN"
  | .semi => "SEMI JOIN"
  | .leftSemi => "LEFT SEMI JOIN"
  | .rightSemi => "RIGHT SEMI JOIN"
  | .anti => "ANTI JOIN"
  | .leftAnti => "LEFT ANTI JOIN"
  | .rightAnti => "RIGHT ANTI JOIN"
  | .crossApply => "CROSS APPLY"
  | .outerApply => "OUTER APPLY"
  | .straight => "STRAIGHT_JOIN"
  | .asOf => "ASOF JOIN"

/-- Joins whose `ON` constraint is a condition of the statement. -/
def hasCondition : JoinOperator → Bool
  | .join | .inner | .left | .leftOuter | .right | .rightOuter | .fullOuter => true
  | _ => false

end JoinOperator

/-- How a join without an ON expression says which rows match. -/
inductive JoinConstraint where
  | none
  | natural
  | columns (names : List ObjectName)
deriving DecidableEq

/-- What distinguishes a named table besides its name and alias. -/
structure TableDetails where
  partitions : List Ident
  ordinality : Bool
  indexHints : List String
deriving DecidableEq

structure Fetch where
  quantity : Option Value
  percent : Bool
  withTies : Bool
deriving DecidableEq

def Fetch.print (f : Fetch) : String :=
  let rows := if f.withTies then "ROWS WITH TIES" else "ROWS ONLY"
  match f.quantity with
  | some q => "FETCH FIRST " ++ q.print ++ (if f.percent then " PERCENT " else " ") ++ rows
  | none => "FETCH FIRST " ++ rows

structure Lock where
  update : Bool
  target : Option ObjectName
  wait : Option String
deriving DecidableEq

def Lock.print (l : Lock) : String :=
  "FOR " ++ (if l.update then "UPDATE" else "SHARE") ++
    (match l.target with | some t => " OF " ++ t.print | none => "") ++
    (match l.wait with | some w => " " ++ w | none => "")

/-- The columns that an assignment sets. -/
inductive Target where
  | column (name : ObjectName)
  | row (names : List ObjectName)
deriving DecidableEq

def Target.print : Target → String
  | .column name => name.print
  | .row names => "(" ++ Text.commas (names.map ObjectName.print) ++ ")"

inductive ConflictTarget where
  | absent
  | columns (names : List Ident)
  | constraint (name : ObjectName)
deriving DecidableEq

def ConflictTarget.print : ConflictTarget → String
  | .absent => ""
  | .columns names => "(" ++ Text.commas (names.map Ident.print) ++ ")"
  | .constraint name => " ON CONSTRAINT " ++ name.print

end SqlTemplate
