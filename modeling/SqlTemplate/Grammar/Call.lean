/-
Calls: a name with arguments in parentheses, and what may stand inside and after them: DISTINCT,
ORDER BY, a separator, FILTER, the treatment of nulls, and a window.
-/
import SqlTemplate.Grammar.DataType

namespace SqlTemplate.Grammar

open SqlTemplate.Grammar.Parser

/-! ## Units of time -/

def timeUnits : List String :=
  ["YEAR", "YEARS", "MONTH", "MONTHS", "WEEK", "WEEKS", "DAY", "DAYS", "HOUR", "HOURS", "MINUTE", "MINUTES",
   "SECOND", "SECONDS", "CENTURY", "DECADE", "DOW", "DOY", "EPOCH", "ISODOW", "ISOYEAR", "JULIAN", "MICROSECOND",
   "MICROSECONDS", "MILLENIUM", "MILLENNIUM", "MILLISECOND", "MILLISECONDS", "NANOSECOND", "NANOSECONDS", "QUARTER",
   "TIMEZONE", "TIMEZONE_HOUR", "TIMEZONE_MINUTE"]

/-- Fields of a date or time that are no units. -/
def timeFields : List String :=
  ["DAYOFWEEK", "DAYOFYEAR", "DATE", "DATETIME", "ISOWEEK", "TIME", "TIMEZONE_ABBR", "TIMEZONE_REGION"]

/-- Dialects that take any identifier or string for a field. -/
def customFields (d : Dialect) : Bool := d == .generic || d == .postgresql

def timeField (d : Dialect) : Parser String := do
  match ← peek with
  | some (.word w) =>
    match w.keyword with
    | some k =>
      if timeUnits.contains k || timeFields.contains k then
        skip
        if ← takeWhere (k == "WEEK" && d == .generic) (takeSymbol "(") then
          let day ← ident
          expectSymbol ")"
          return "WEEK(" ++ day.print ++ ")"
        return k
      else if customFields d then return (← ident).print
      else unexpected
    | none => if customFields d then return (← ident).print else unexpected
  | some (.string _) => if customFields d then return (← ident).print else unexpected
  | _ => unexpected

/-- Dialects in which an interval is any expression with a unit after it. -/
def intervalNeedsUnit (d : Dialect) : Bool := d == .mysql

/-- A precision with a space before it, or nothing. -/
def spacedPrecision : Parser String := do
  let p ← precision
  return if p.isEmpty then "" else " " ++ p

/-- What follows the leading unit of an interval that is not in seconds. -/
def intervalEnd (d : Dialect) : Parser String := do
  let p ← spacedPrecision
  if ← takeKeyword "TO" then
    let last ← timeField d
    let q ← if last == "SECOND" then spacedPrecision else pure ""
    return p ++ " TO " ++ last ++ q
  else return p

/-- The unit of an interval as it is printed after the value. -/
def intervalUnit (d : Dialect) : Parser String := do
  if (← peekKeyword).any timeUnits.contains then
    let lead ← timeField d
    if lead == "SECOND" then
      if ← takeSymbol "(" then
        let p ← literalNumber
        let s ← if ← takeSymbol "," then pure (", " ++ toString (← literalNumber)) else pure ""
        expectSymbol ")"
        return " SECOND (" ++ toString p ++ s ++ ")"
      return " SECOND"
    return " " ++ lead ++ (← intervalEnd d)
  else if intervalNeedsUnit d then unexpected
  else intervalEnd d

/-- What follows the word INTERVAL. -/
def interval (d : Dialect) (r : Rules) : Parser Expr := do
  let v ← if intervalNeedsUnit d then r.full else r.operand
  return .form (.interval (← intervalUnit d)) [v]

/-! ## Passages -/

/-- Words and the expressions that stand between them. -/
structure Passage where
  pieces : Phrase
  args : List Expr

namespace Passage

def words (text : String) : Passage := ⟨[.words text], []⟩

def expr (e : Expr) : Passage := ⟨[.expr], [e]⟩

instance : Append Passage := ⟨fun p q => ⟨p.pieces ++ q.pieces, p.args ++ q.args⟩⟩

def commas (ps : List Passage) : Passage := ⟨Phrase.commas (ps.map Passage.pieces), ps.flatMap Passage.args⟩

def clause (p : Passage) : Clause := ⟨.phrase p.pieces, p.args⟩

end Passage

/-- An expression after its keyword, or nothing. -/
def keyedExpr (k : String) (r : Rules) : Parser Passage := do
  match ← afterKeyword k r.full with
  | some e => return .words (" " ++ k ++ " ") ++ .expr e
  | none => return .words ""

/-- An expression with a name after AS, which may be left out. -/
def withName (e : Expr) : Parser Passage := do
  match ← afterKeyword "AS" ident with
  | some name => return .expr e ++ .words (" AS " ++ name.print)
  | none => return .expr e

/-! ## Sort keys -/

/-- How gaps between the sorted values are filled. -/
def fill (d : Dialect) (r : Rules) : Parser Passage := do
  if ← takeWhere (d == .generic) (takeKeywords ["WITH", "FILL"]) then
    let start ← keyedExpr "FROM" r
    let stop ← keyedExpr "TO" r
    let step ← keyedExpr "STEP" r
    return .words " WITH FILL" ++ start ++ stop ++ step
  else return .words ""

/-- A direction, and the expressions of its fill. -/
def direction (d : Dialect) (r : Rules) : Parser (Direction × List Expr) := do
  let ascending ← takeOneOf ["ASC", "DESC"]
  let nullsFirst ←
    if ← takeKeywords ["NULLS", "FIRST"] then pure (some true)
    else if ← takeKeywords ["NULLS", "LAST"] then pure (some false)
    else pure none
  let filled ← fill d r
  return (⟨ascending.map (· == "ASC"), nullsFirst, filled.pieces⟩, filled.args)

def sortKey (d : Dialect) (r : Rules) : Parser (Direction × List Expr) := do
  let e ← r.full
  let (direction, filled) ← direction d r
  return (direction, e :: filled)

/-- What is sorted by: the directions, and the expressions in order, each before those of its fill. -/
structure SortKeys where
  directions : List Direction
  args : List Expr

def sortKeys (d : Dialect) (r : Rules) : Parser SortKeys := do
  let items ← commaList (sortKey d r)
  return ⟨items.map Prod.fst, items.flatMap Prod.snd⟩

namespace SortKeys

/-- The clause of a kind that is known by its directions. -/
def clause (s : SortKeys) (kind : List Direction → ClauseKind) : Clause := ⟨kind s.directions, s.args⟩

def passage (s : SortKeys) : Passage := ⟨sortPhrase s.directions, s.args⟩

end SortKeys

/-! ## Windows -/

/-- A frame bound and the expressions in it. -/
def frameBound (d : Dialect) (r : Rules) : Parser (BoundKind × List Expr) := do
  if ← takeKeywords ["CURRENT", "ROW"] then return (.currentRow, [])
  let rows ←
    if ← takeKeyword "UNBOUNDED" then pure none
    else
      match ← peek with
      | some (.string _) => pure (some (← interval d r))
      | _ => pure (some (← r.full))
  let preceding := (← expectOneOf ["PRECEDING", "FOLLOWING"]) == "PRECEDING"
  match rows with
  | none => return (.unbounded preceding, [])
  | some e => return (.offset preceding, [e])

def frame (d : Dialect) (r : Rules) : Parser (FrameKind × List Expr) := do
  let units ← expectOneOf ["ROWS", "RANGE", "GROUPS"]
  if ← takeKeyword "BETWEEN" then
    let (start, es) ← frameBound d r
    expectKeyword "AND"
    let (stop, fs) ← frameBound d r
    return (⟨units, start, some stop⟩, es ++ fs)
  else
    let (start, es) ← frameBound d r
    return (⟨units, start, none⟩, es)

/-- A window after its opening parenthesis, with all its expressions in order. -/
def windowSpec (d : Dialect) (r : Rules) : Parser (WindowKind × List Expr) := do
  let name ←
    match ← peek with
    | some (.word w) => if w.keyword.isNone then skip; pure (some w.toIdent) else pure none
    | _ => pure none
  let partitions ← if ← takeKeywords ["PARTITION", "BY"] then commaList r.full else pure []
  let order ← if ← takeKeywords ["ORDER", "BY"] then sortKeys d r else pure ⟨[], []⟩
  if ← takeSymbol ")" then return (⟨name, partitions.length, order.directions, none⟩, partitions ++ order.args)
  let (f, bounds) ← frame d r
  expectSymbol ")"
  return (⟨name, partitions.length, order.directions, some f⟩, partitions ++ order.args ++ bounds)

/-- What follows the word OVER. -/
def windowRef (d : Dialect) (r : Rules) : Parser (WindowRef × List Expr) := do
  if ← takeSymbol "(" then
    let (w, es) ← windowSpec d r
    return (.spec w, es)
  else return (.named (← ident), [])

/-! ## Arguments -/

/-- A star or an expression, as an argument or a selected item. -/
inductive Starred where
  | star (table : Option ObjectName)
  | expr (e : Expr)

/-- The parts of a name that ends in a star, after its first part. -/
def starLoop (parts : List Ident) : Nat → Parser (Option ObjectName)
  | 0 => return none
  | n + 1 => do
    if ← takeSymbol "." then
      match ← peek with
      | some (.word w) => skip; starLoop (w.toIdent :: parts) n
      | some (.string s) => skip; starLoop (⟨s, some '\x27'⟩ :: parts) n
      | some (.symbol "*") => skip; return some parts.reverse
      | _ => unexpected
    else return none

/-- A star, a name followed by `.*`, or an expression, which `plain` reads. -/
def starredBy (plain : Parser Expr) : Parser Starred := fun ts =>
  let first? : Option Ident :=
    match ts with
    | ⟨.word w, _⟩ :: ⟨.symbol ".", _⟩ :: _ => some w.toIdent
    | ⟨.string s, _⟩ :: ⟨.symbol ".", _⟩ :: _ => some ⟨s, some '\x27'⟩
    | _ => none
  match ts, first? with
  | ⟨.symbol "*", _⟩ :: rest, _ => .ok (.star none, rest)
  | _, none => (Starred.expr <$> plain) ts
  | _, some first =>
    match starLoop [first] ts.length (ts.drop 1) with
    | .ok (some name, rest) => .ok (.star (some name), rest)
    | .ok (none, _) => (Starred.expr <$> plain) ts
    | .error e => .error e

def starred (r : Rules) : Parser Starred := starredBy r.full

/-- The operator between the name and the value of an argument. -/
def nameOperator (d : Dialect) : Parser String := do
  if ← takeKeyword "VALUE" then return "VALUE"
  match ← peek with
  | some (.symbol "=>") => if d == .mssql then unexpected else skip; return "=>"
  | some (.symbol ":=") => if d == .generic then skip; return ":=" else unexpected
  | some (.symbol ":") => if d == .postgresql || d == .mssql then skip; return ":" else unexpected
  | _ => unexpected

/-- Dialects in which the name of an argument is an expression. -/
def exprNames (d : Dialect) : Bool := d == .postgresql || d == .mssql

/-- An argument with a name. Where the name is an expression, `plain` reads it. -/
def namedArg (d : Dialect) (r : Rules) (plain : Parser Expr) : Parser Arg := do
  let name ← if exprNames d then plain else pure (.ident (← ident))
  let op ← nameOperator d
  match ← starred r with
  | .star table => return .namedStar name op table
  | .expr (.form (.wildcard table) _) => return .namedStar name op table
  | .expr e => return .named name op e

/-- A lone `t.*` that the expression grammar read is a star, too. -/
def unnamedArg (plain : Parser Expr) : Parser Arg := do
  match ← starredBy plain with
  | .star table => return .star table
  | .expr (.form (.wildcard table) _) => return .star table
  | .expr e => return .expr e

/-- An argument. Its leading expression is read once, whether it is the name or all there is. -/
def arg (d : Dialect) (r : Rules) : Parser Arg := fun ts =>
  let leading := r.full ts
  let plain : Parser Expr := fun _ => leading
  match attempt (namedArg d r plain) ts with
  | .ok (some a, rest) => .ok (a, rest)
  | .ok (none, _) => unnamedArg plain ts
  | .error e => .error e

/-- A clause, if its keyword is there and the dialect has it. -/
def optionalClause (enabled : Bool) (p : Parser (Option Clause)) : Parser (List Clause) := do
  if enabled then return (← p).toList else return []

def nullsOnNull : Parser (Option Clause) := do
  if ← takeKeywords ["ABSENT", "ON", "NULL"] then return some ⟨.words "ABSENT ON NULL", []⟩
  else if ← takeKeywords ["NULL", "ON", "NULL"] then return some ⟨.words "NULL ON NULL", []⟩
  else return none

def nullTreatment : Parser (Option Clause) := do
  match ← takeOneOf ["RESPECT", "IGNORE"] with
  | some k => expectKeyword "NULLS"; return some ⟨.words (k ++ " NULLS"), []⟩
  | none => return none

def argOrder (d : Dialect) (r : Rules) : Parser (Option Clause) :=
  afterKeywords ["ORDER", "BY"] do return (← sortKeys d r).clause .orderBy

def argLimit (r : Rules) : Parser (Option Clause) :=
  afterKeyword "LIMIT" do return ⟨.limit, [← r.full]⟩

def argHaving (r : Rules) : Parser (Option Clause) :=
  afterKeyword "HAVING" do
    let bound ← expectOneOf ["MIN", "MAX"]
    return ⟨.havingBound bound, [← r.full]⟩

def argSeparator (d : Dialect) : Parser (Option Clause) :=
  afterKeyword "SEPARATOR" do return ⟨.separator, [.value (← value d)]⟩

/-- Whether a token is a literal that can stand in for what is cut off. -/
def isFiller (t : Token) : Bool :=
  match t with
  | .string _ | .escaped _ | .unicode _ | .national _ | .hex _ => true
  | _ => false

/-- What to do when a list grows too long. -/
def argOverflow (r : Rules) : Parser (Option Clause) :=
  afterKeywords ["ON", "OVERFLOW"] do
    if ← takeKeyword "ERROR" then return ⟨.words "ON OVERFLOW ERROR", []⟩
    expectKeyword "TRUNCATE"
    let filler ← if (← peek).any isFiller then pure [← r.full] else pure []
    let count ← expectOneOf ["WITH", "WITHOUT"]
    expectKeyword "COUNT"
    return ⟨.overflow (!filler.isEmpty) count, filler⟩

/-- Whether `ALL` or `DISTINCT` stands before the arguments; both are too many. -/
def duplicates : Parser (Option String) := do
  let start ← place
  let all ← takeKeyword "ALL"
  let distinct ← takeKeyword "DISTINCT"
  match all, distinct with
  | true, true => failAt start
  | true, false => return some "ALL"
  | false, true => return some "DISTINCT"
  | false, false => return none

/-- Arguments after the opening parenthesis. -/
def argList (d : Dialect) (r : Rules) : Parser Args := do
  let early ← optionalClause true nullsOnNull
  if ← takeSymbol ")" then return .list none [] early
  let quantifier ← duplicates
  let items ← commaList (arg d r)
  let nulls ← optionalClause (d == .generic) nullTreatment
  let order ← optionalClause true (argOrder d r)
  let limit ← optionalClause true (argLimit r)
  let having ← optionalClause (d == .generic) (argHaving r)
  let separator ← optionalClause (d == .generic || d == .mysql) (argSeparator d)
  let overflow ← optionalClause true (argOverflow r)
  let late ← optionalClause true nullsOnNull
  expectSymbol ")"
  return .list quantifier items (early ++ nulls ++ order ++ limit ++ having ++ separator ++ overflow ++ late)

/-! ## Calls -/

def withinGroup (d : Dialect) (r : Rules) : Parser (Option Clause) :=
  afterKeywords ["WITHIN", "GROUP"] do
    parenthesized do
      expectKeywords ["ORDER", "BY"]
      return (← sortKeys d r).clause .withinGroup

/-- FILTER; the word alone is passed over. -/
def callFilter (r : Rules) : Parser (Option Clause) := do
  if (← takeKeyword "FILTER") then
    if (← takeSymbol "(") then
      if (← takeKeyword "WHERE") then
        let e ← r.full
        expectSymbol ")"
        return some ⟨.filter, [e]⟩
  return none

def overWindow (d : Dialect) (r : Rules) : Parser (Option Clause) :=
  afterKeyword "OVER" do
    let (w, es) ← windowRef d r
    return ⟨.overWindow w, es⟩

def hasFilter (d : Dialect) : Bool := d == .generic || d == .postgresql || d == .sqlite

def hasNullTreatment (args : Args) : Bool :=
  match args with
  | .list _ _ clauses => clauses.any fun c => c.kind == .words "RESPECT NULLS" || c.kind == .words "IGNORE NULLS"
  | _ => false

/-- A call, whose parenthesis comes next. In one dialect a second list of arguments may follow, and the first one
then holds the parameters of what is called. -/
def call (d : Dialect) (r : Rules) (callee : Callee) : Parser Expr := do
  expectSymbol "("
  let first ← argList d r
  let second ← if ← takeWhere (d == .generic) (takeSymbol "(") then pure (some (← argList d r)) else pure none
  let args := second.getD first
  let parameters := if second.isSome then first else .absent
  let group ← optionalClause true (withinGroup d r)
  let filter ← optionalClause (hasFilter d) (callFilter r)
  let nulls ← optionalClause (!hasNullTreatment args) nullTreatment
  let window ← optionalClause true (overWindow d r)
  return .call callee parameters args (group ++ filter ++ nulls ++ window)

/-- A call that is not in braces. -/
def plainCall (d : Dialect) (r : Rules) (name : ObjectName) : Parser Expr := call d r ⟨name, false⟩

end SqlTemplate.Grammar
