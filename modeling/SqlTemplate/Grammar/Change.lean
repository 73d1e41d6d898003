/-
The statements that change rows: INSERT and REPLACE, UPDATE, DELETE. Each rule starts after the
keyword that opens the statement.
-/
import SqlTemplate.Grammar.Select

namespace SqlTemplate.Grammar

open SqlTemplate.Grammar.Parser

/-! ## Parts -/

def assignmentTarget (d : Dialect) : Parser Target := do
  if ← nextIsSymbol "(" then return .row (← nameList d) else return .column (← objectName d)

def assignment (d : Dialect) (r : Rules) : Parser Assignment := do
  let target ← assignmentTarget d
  expectSymbol "="
  return ⟨target, ← r.full⟩

def assignments (d : Dialect) (r : Rules) : Parser (List Assignment) := commaList (assignment d r)

/-- What to do when a row is already there, as it is printed. -/
def conflictClause : Parser (Option String) := do
  let choices := ["REPLACE", "ROLLBACK", "ABORT", "FAIL", "IGNORE"]
  match ← peekKeyword, ← peekKeywordAt 1 with
  | some "OR", some k => if choices.contains k then skip; skip; return some ("OR " ++ k) else return none
  | some "REPLACE", _ => skip; return some "OR REPLACE"
  | _, _ => return none

def returning (d : Dialect) (r : Rules) : Parser (List SelectItem) := do
  return (← afterKeyword "RETURNING" (commaList (selectItem d r))).getD []

/-! ## INSERT -/

def conflictTarget (d : Dialect) : Parser ConflictTarget := do
  if ← takeKeywords ["ON", "CONSTRAINT"] then return .constraint (← objectName d)
  else if ← nextIsSymbol "(" then return .columns (← columnList false)
  else return .absent

def conflictAction (d : Dialect) (r : Rules) (target : ConflictTarget) : Parser Clause := do
  expectKeyword "DO"
  if ← takeKeyword "NOTHING" then return ⟨.onConflict target none, []⟩
  expectKeywords ["UPDATE", "SET"]
  let sets ← assignments d r
  let selection ← afterKeyword "WHERE" r.full
  return ⟨.onConflict target (some (sets.map Assignment.target)), sets.map Assignment.value ++ selection.toList⟩

/-- The clause after the rows that starts with ON. -/
def onClause (d : Dialect) (r : Rules) : Parser (Option Clause) :=
  afterKeyword "ON" do
    if ← takeKeyword "CONFLICT" then conflictAction d r (← conflictTarget d)
    else
      expectKeywords ["DUPLICATE", "KEY", "UPDATE"]
      let sets ← assignments d r
      return ⟨.onDuplicateKey (sets.map Assignment.target), sets.map Assignment.value⟩

/-- Names for the new row, as they are printed. -/
def rowAlias (d : Dialect) : Parser String := do
  if ← takeKeyword "AS" then
    let name ← objectName d
    let columns ← optionalColumnList false
    return " AS " ++ name.print ++
      Form.optional (!columns.isEmpty) (" (" ++ Text.commas (columns.map Ident.print) ++ ")")
  else return ""

/-- The keywords between INSERT and its target. -/
def insertLead (d : Dialect) : Parser (List String) := do
  let priority ←
    if d == .mysql || d == .generic then takeOneOf ["LOW_PRIORITY", "DELAYED", "HIGH_PRIORITY"] else pure none
  let ignore ← if d == .mysql || d == .generic then takeOneOf ["IGNORE"] else pure none
  let overwrite ← takeOneOf ["OVERWRITE"]
  let into ← takeOneOf ["INTO"]
  discard (takeKeyword "LOCAL")
  return priority.toList ++ ignore.toList ++ overwrite.toList ++ into.toList

/-- Whether rows go to a directory and not to a table; if so, all before its path is taken. -/
def directoryAhead (d : Dialect) : Parser Bool := do
  return (← attempt (do discard conflictClause; discard (insertLead d); expectKeyword "DIRECTORY")).isSome

def directoryInsert (d : Dialect) (r : Rules) : Parser Unit := do
  discard (literalString d)
  discard (afterKeywords ["STORED", "AS"]
    (expectOneOf ["AVRO", "JSONFILE", "ORC", "PARQUET", "RCFILE", "SEQUENCEFILE", "TEXTFILE"]))
  discard r.query

/-- What an INSERT takes its rows from. -/
structure Rows where
  columns : List Ident
  partition : List Expr
  source : Option Query
  assignments : List Assignment

def insertRows (d : Dialect) (r : Rules) : Parser Rows := do
  if ← takeKeywords ["DEFAULT", "VALUES"] then return ⟨[], [], none, []⟩
  let isQuery := (← nextIsSymbol "(") && (← peekKeywordAt 1) == some "SELECT"
  let columns ← if isQuery then pure [] else optionalColumnList (d == .mysql)
  let partition ← if isQuery then pure none else afterKeyword "PARTITION" (parenthesized (commaList r.full))
  let rows : Option Query → List Assignment → Rows := Rows.mk columns (partition.getD [])
  if (← nextIsKeyword "FORMAT") || (← nextIsKeyword "SETTINGS") then return rows none []
  else if ← takeWhere (d == .mysql) (takeKeyword "SET") then return rows none (← assignments d r)
  else return rows (some (← r.query)) []

/-- An INSERT, or with another `verb` the statement that replaces rows. -/
def insert (d : Dialect) (r : Rules) (verb : String) : Parser Insert := do
  let conflict ← conflictClause
  let lead ← insertLead d
  let words := lead ++ (← takeOneOf ["TABLE"]).toList
  let table ← objectName d
  let aliasName ← if d == .postgresql then afterKeyword "AS" ident else pure none
  let rows ← insertRows d r
  let row ← if d == .mysql || d == .generic then rowAlias d else pure ""
  let on ← onClause d r
  let back ← returning d r
  return {
    conflict, words := verb :: words, table, aliasName
    columns := rows.columns
    partition := rows.partition
    source := rows.source
    assignments := rows.assignments
    rowAlias := row
    onClause := on.toList
    returning := back }

/-! ## UPDATE and DELETE -/

def update (d : Dialect) (r : Rules) : Parser Update := do
  let conflict ← conflictClause
  let table ← tableTree d r
  let early ← afterKeyword "FROM" (tableList d r)
  expectKeyword "SET"
  let sets ← assignments d r
  let late ← if early.isNone then afterKeyword "FROM" (tableList d r) else pure none
  let selection ← afterKeyword "WHERE" r.full
  let sources := early.getD (late.getD [])
  return ⟨conflict, table, sources, early.isSome, sets, selection, ← returning d r⟩

/-- The tables to delete from that are listed before FROM, and whether FROM is there. -/
def deleteTargets (d : Dialect) : Parser (List ObjectName × Bool) := do
  if ← takeKeyword "FROM" then return ([], true)
  else if d == .generic then return ([], false)
  else
    let targets ← commaList (objectName d)
    expectKeyword "FROM"
    return (targets, true)

def deleteClauses (d : Dialect) (r : Rules) : Parser (List Clause) := do
  let order ← afterKeywords ["ORDER", "BY"] (sortKeys d r)
  let limit ← afterKeyword "LIMIT" (do if ← takeKeyword "ALL" then return none else return some (← r.full))
  return (order.toList.map fun o => o.clause .orderBy) ++ (limit.bind id).toList.map fun e => ⟨.limit, [e]⟩

def delete (d : Dialect) (r : Rules) : Parser Delete := do
  let (targets, fromKeyword) ← deleteTargets d
  let tables ← tableList d r
  let others ← afterKeyword "USING" (tableList d r)
  let selection ← afterKeyword "WHERE" r.full
  let back ← returning d r
  return ⟨targets, fromKeyword, tables, others.getD [], selection, back, ← deleteClauses d r⟩

end SqlTemplate.Grammar
