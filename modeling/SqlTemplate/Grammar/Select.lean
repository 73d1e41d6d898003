/-
SELECT without the clauses that belong to the whole query: selected items, tables, WHERE, GROUP BY,
HAVING and named windows.
-/
import SqlTemplate.Grammar.Table

namespace SqlTemplate.Grammar

open SqlTemplate.Grammar.Parser

/-! ## Selected items -/

/-- Names left out of a star. -/
def starExclusion : Parser (Option Clause) :=
  afterKeyword "EXCLUDE" do
    if ← nextIsSymbol "(" then
      return ⟨.words ("EXCLUDE (" ++ Text.commas ((← columnList false).map Ident.print) ++ ")"), []⟩
    else return ⟨.words ("EXCLUDE " ++ (← ident).print), []⟩

def starException : Parser (Option Clause) :=
  afterKeyword "EXCEPT" do
    if ← nextIsSymbol "(" then
      return ⟨.words ("EXCEPT (" ++ Text.commas ((← columnList false).map Ident.print) ++ ")"), []⟩
    else return ⟨.words ("EXCEPT (" ++ (← ident).print ++ ")"), []⟩

/-- A pattern that the names of the columns match. -/
def starPattern : Parser (Option Clause) :=
  afterKeyword "ILIKE" do return ⟨.words ("ILIKE " ++ (← stringItem)), []⟩

def replacement (r : Rules) : Parser Passage := do
  let e ← r.full
  let explicit ← takeKeyword "AS"
  return .expr e ++ .words ((if explicit then " AS " else " ") ++ (← ident).print)

/-- Expressions in place of columns. -/
def starReplacement (r : Rules) : Parser (Option Clause) :=
  afterKeyword "REPLACE" do
    let items ← parenthesized (commaList (replacement r))
    return (Passage.words "REPLACE (" ++ .commas items ++ .words ")").clause

def nameChange : Parser String := do
  let name ← ident
  expectKeyword "AS"
  return name.print ++ " AS " ++ (← ident).print

/-- New names for columns. -/
def starNames : Parser (Option Clause) :=
  afterKeyword "RENAME" do
    if ← nextIsSymbol "(" then
      return ⟨.words ("RENAME (" ++ Text.commas (← parenthesized (commaList nameChange)) ++ ")"), []⟩
    else return ⟨.words ("RENAME " ++ (← nameChange)), []⟩

/-- What may follow a star in the dialect that allows most. -/
def starOptions (d : Dialect) (r : Rules) : Parser (List Clause) := do
  if d == .generic then
    let pattern ← starPattern
    let exclusion ← if pattern.isNone then starExclusion else pure none
    let exception ← starException
    let replaced ← starReplacement r
    let renamed ← starNames
    return pattern.toList ++ exclusion.toList ++ exception.toList ++ replaced.toList ++ renamed.toList
  else return []

/-- An expression as an item. The word FROM is none; where `name = e` is an alias for `e`, it is read so. -/
def itemOf (d : Dialect) (e : Expr) : Parser SelectItem := do
  match e with
  | .form (.wildcard table) _ => return .wildcard table []
  | .ident ⟨text, none⟩ =>
    if Text.lower text == "from" then unexpected else return .expr e (← alias? (isColumnAlias d))
  | .binary (.ident name) .eq right =>
    if d == .mssql then return .expr right (some name) else return .expr e (← alias? (isColumnAlias d))
  | _ => return .expr e (← alias? (isColumnAlias d))

def selectItem (d : Dialect) (r : Rules) : Parser SelectItem := do
  match ← starred r with
  | .star table => return .wildcard table (← starOptions d r)
  | .expr e => itemOf d e

/-- Whether a list that ends in a comma ends here. -/
def endsList (d : Dialect) (t : Option Token) : Bool :=
  match t with
  | none => true
  | some (.word w) => w.keyword.any fun k => !isColumnAlias d (some k)
  | some (.symbol s) => [")", ";", "]", "\x7d"].contains s
  | some _ => false

def projectionLoop (d : Dialect) (r : Rules) : Nat → Parser (List SelectItem)
  | 0 => return []
  | n + 1 => do
    let item ← selectItem d r
    if ← takeSymbol "," then
      if d == .generic && endsList d (← peek) then return [item]
      else return item :: (← projectionLoop d r n)
    else return [item]

/-- Dialects in which nothing need be selected. -/
def emptyProjection (d : Dialect) : Bool := d == .generic || d == .postgresql

def projection (d : Dialect) (r : Rules) : Parser (List SelectItem) := do
  if emptyProjection d && (← nextIsKeyword "FROM") then return []
  else projectionLoop d r ((← remaining) + 1)

/-! ## DISTINCT and TOP -/

def distinct (r : Rules) : Parser (Option Clause) := do
  let start ← place
  let all ← takeKeyword "ALL"
  if ← takeKeyword "DISTINCT" then
    if all then failAt start
    else if ← takeKeyword "ON" then
      return some ⟨.distinctOn, ← parenthesized (commaListUntil ")" r.full)⟩
    else return some ⟨.distinct, []⟩
  else return none

def top (r : Rules) : Parser (Option Clause) :=
  afterKeyword "TOP" do
    let isNested ← nextIsSymbol "("
    let e ← if isNested then parenthesized r.full else pure (.value (.number (toString (← literalNumber)) false))
    let percent ← takeKeyword "PERCENT"
    return ⟨.top isNested percent (← takeKeywords ["WITH", "TIES"]), [e]⟩

/-! ## GROUP BY -/

/-- An expression, or several in parentheses. -/
def groupingSet (r : Rules) (lifted : Bool) : Parser (List Expr) := do
  if lifted && !(← nextIsSymbol "(") then return [← r.full]
  else parenthesized (commaListUntil ")" r.full)

def groupingForm (r : Rules) (name : String) (lifted : Bool) : Parser Expr := do
  let sets ← parenthesized (commaList (groupingSet r lifted))
  return .form (.grouping name lifted (sets.map List.length)) sets.flatten

def groupingExpr (d : Dialect) (r : Rules) : Parser Expr := do
  if d == .generic || d == .postgresql then
    if ← takeKeywords ["GROUPING", "SETS"] then groupingForm r "GROUPING SETS" false
    else if ← takeKeyword "CUBE" then groupingForm r "CUBE" true
    else if ← takeKeyword "ROLLUP" then groupingForm r "ROLLUP" true
    else
      match ← peek, ← peekAt 1 with
      | some (.symbol "("), some (.symbol ")") => skip; skip; return .tuple []
      | _, _ => r.full
  else r.full

def groupModifier : Parser (Option String) := do
  if ← takeKeyword "WITH" then return some ("WITH " ++ (← expectOneOf ["ROLLUP", "CUBE", "TOTALS"]))
  else return none

/-- Sets of expressions to group by, after those that they are taken from. -/
def trailingSets (r : Rules) : Parser (Option Clause) :=
  afterKeywords ["GROUPING", "SETS"] do
    let sets ← parenthesized (commaList (groupingSet r true))
    return ⟨.groupingSets (sets.map List.length), sets.flatten⟩

def groupBy (d : Dialect) (r : Rules) : Parser (List Clause) := do
  if ← takeKeywords ["GROUP", "BY"] then
    let all ← takeKeyword "ALL"
    let items ← if all then pure [] else commaList (groupingExpr d r)
    let modifiers ← if d == .mysql || d == .generic then many groupModifier else pure []
    return ⟨.groupBy all modifiers, items⟩ :: (← trailingSets r).toList
  else return []

/-- Expressions that rows are spread or clustered by. -/
def spreadBy (k : String) (r : Rules) : Parser (Option Clause) :=
  afterKeywords [k, "BY"] do return ⟨.spreadBy k, ← commaList r.full⟩

def sortBy (d : Dialect) (r : Rules) : Parser (Option Clause) :=
  afterKeywords ["SORT", "BY"] do return (← sortKeys d r).clause .sortBy

/-- GROUP BY and the clauses between it and HAVING. -/
def groupingClauses (d : Dialect) (r : Rules) : Parser (List Clause) := do
  let group ← groupBy d r
  let cluster ← spreadBy "CLUSTER" r
  let distribute ← spreadBy "DISTRIBUTE" r
  return group ++ cluster.toList ++ distribute.toList ++ (← sortBy d r).toList

/-! ## Windows -/

def namedWindow (d : Dialect) (r : Rules) : Parser ((Ident × WindowRef) × List Expr) := do
  let name ← ident
  expectKeyword "AS"
  if d != .generic && !(← nextIsSymbol "(") then unexpected
  let (w, es) ← windowRef d r
  return ((name, w), es)

def windows (d : Dialect) (r : Rules) : Parser (Option Clause) :=
  afterKeyword "WINDOW" do
    let definitions ← commaList (namedWindow d r)
    return ⟨.windows (definitions.map Prod.fst), (definitions.map Prod.snd).flatten⟩

def qualify (r : Rules) : Parser (Option Clause) :=
  afterKeyword "QUALIFY" do return ⟨.qualify, [← r.full]⟩

/-- WINDOW and QUALIFY in either order. -/
def windowClauses (d : Dialect) (r : Rules) : Parser (List Clause) := do
  match ← windows d r with
  | some w => return w :: (← qualify r).toList
  | none =>
    match ← qualify r with
    | some q => return q :: (← windows d r).toList
    | none => return []

/-! ## Hierarchies -/

/-- Rows that follow from others, and the rows that they start with. -/
def connectBy (r : Rules) : Parser (List Clause) := do
  if ← takeKeywords ["CONNECT", "BY"] then
    let steps ← r.relationships
    expectKeywords ["START", "WITH"]
    return [⟨.connectBy, (← r.full) :: steps⟩]
  else
    expectKeywords ["START", "WITH"]
    let start ← r.full
    expectKeywords ["CONNECT", "BY"]
    return [⟨.connectBy, start :: (← r.relationships)⟩]

def hierarchy (d : Dialect) (r : Rules) : Parser (List Clause) := do
  if (d == .generic || d == .mssql) && ((← nextIsKeyword "START") || (← nextIsKeyword "CONNECT")) then connectBy r
  else return []

/-! ## Before WHERE -/

/-- Words that do not name a column of a lateral view. -/
def notViewColumn : List String := ["WHERE", "GROUP", "CLUSTER", "HAVING", "LATERAL"]

/-- A function that is applied to each row, with names for its results. -/
def lateralView (d : Dialect) (r : Rules) : Parser (Option Clause) :=
  afterKeywords ["LATERAL", "VIEW"] do
    let outer ← takeKeyword "OUTER"
    let e ← r.full
    let name ← objectName d
    let columns := (← commaList (alias? fun k => !(k.any notViewColumn.contains))).filterMap id
    let names := name.print ++ Form.optional (!columns.isEmpty) (" AS " ++ Text.commas (columns.map Ident.print))
    return (Passage.words ("LATERAL VIEW " ++ Form.optional outer "OUTER ") ++ .expr e ++ .words (" " ++ names)).clause

def clausesBeforeWhere (d : Dialect) (r : Rules) : Parser (List Clause) := do
  let views ← many (lateralView d r)
  let early ← if d == .generic then afterKeyword "PREWHERE" r.full else pure none
  return views ++ early.toList.map fun e => ⟨.preWhere, [e]⟩

/-! ## SELECT -/

/-- The table that a SELECT writes to, as it is printed. -/
def intoTable (d : Dialect) : Parser String := do
  let temporary ← takeOneOf ["TEMP", "TEMPORARY"]
  let unlogged ← takeKeyword "UNLOGGED"
  let table ← takeKeyword "TABLE"
  let name ← objectName d
  return "INTO" ++ Form.optional temporary.isSome " TEMPORARY" ++ Form.optional unlogged " UNLOGGED" ++
    Form.optional table " TABLE" ++ " " ++ name.print

def tableList (d : Dialect) (r : Rules) : Parser (List TableTree) := commaList (tableTree d r)

/-- SELECT from its keyword on; `early` are the tables that stood before it. -/
def selectRest (d : Dialect) (r : Rules) (early : Option (List TableTree)) : Parser Select := do
  expectKeyword "SELECT"
  let dist ← distinct r
  let limit ← top r
  let items ← projection d r
  let into ← afterKeyword "INTO" (intoTable d)
  let tables ←
    match early with
    | some ts => pure ts
    | none => pure ((← afterKeyword "FROM" (tableList d r)).getD [])
  let before ← clausesBeforeWhere d r
  let selection ← afterKeyword "WHERE" r.full
  let grouping ← groupingClauses d r
  let having ← afterKeyword "HAVING" r.full
  let named ← windowClauses d r
  let quantifiers := dist.toList ++ limit.toList
  let windows := named ++ (← hierarchy d r)
  return ⟨early.isSome, quantifiers, items, into, tables, before, selection, grouping, having, windows⟩

/-- A SELECT, which in one dialect may begin with its tables and end there. -/
def select (d : Dialect) (r : Rules) : Parser Select := do
  if ← takeKeyword "FROM" then
    let tables ← tableList d r
    if ← nextIsKeyword "SELECT" then selectRest d r (some tables)
    else return ⟨true, [], [], none, tables, [], none, [], none, []⟩
  else selectRest d r none

end SqlTemplate.Grammar
