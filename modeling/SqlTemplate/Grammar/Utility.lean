/-
The statements that neither read nor change rows and define nothing either, and the table of all
statements whose content is dropped. A MERGE is among them, since it is not analysed.
-/
import SqlTemplate.Grammar.Setting

namespace SqlTemplate.Grammar

open SqlTemplate.Grammar.Parser

/-! ## MERGE -/

def mergeInsert (d : Dialect) (r : Rules) : Parser Unit := do
  discard (optionalColumnList (d == .mysql))
  if ← takeWhere (d == .generic) (takeKeyword "ROW") then pure ()
  else
    expectKeyword "VALUES"
    discard (valuesBody r (d == .mysql))

/-- What is done to a row; one that has no match can only be inserted, and a match cannot. -/
def mergeAction (d : Dialect) (r : Rules) (inserts : Bool) : Parser Unit := do
  match ← takeOneOf ["UPDATE", "INSERT", "DELETE"] with
  | some "INSERT" => if inserts then mergeInsert d r else failAt none
  | some "UPDATE" =>
    if inserts then failAt none
    expectKeyword "SET"
    discard (assignments d r)
  | some _ => if inserts then failAt none
  | none => failAt none

def mergeClause (d : Dialect) (r : Rules) : Parser (Option Unit) :=
  afterKeyword "WHEN" do
    let missing ← takeKeyword "NOT"
    expectKeyword "MATCHED"
    let bySource ← takeWhere missing (takeKeywords ["BY", "SOURCE"])
    discard (takeWhere (missing && !bySource) (takeKeywords ["BY", "TARGET"]))
    discard (afterKeyword "AND" r.full)
    expectKeyword "THEN"
    mergeAction d r (missing && !bySource)

def mergeStatement (d : Dialect) (r : Rules) : Parser Unit := do
  discard (takeKeyword "INTO")
  discard (relation d r)
  expectKeyword "USING"
  discard (relation d r)
  expectKeyword "ON"
  discard r.full
  discard (many (mergeClause d r))
  discard (afterKeyword "OUTPUT" do
    discard (projection d r)
    discard (afterKeyword "INTO" (intoTable d)))

/-! ## Plans -/

def planFormat : Parser Unit := do
  discard (takeSymbol "=")
  discard (expectOneOf ["TEXT", "GRAPHVIZ", "JSON"])

def utilityOption (r : Rules) : Parser Unit := do
  discard ident
  if !(← nextIsSymbol ",") && !(← nextIsSymbol ")") then discard r.full

/-- How a plan is to be shown. -/
def planOptions (d : Dialect) (r : Rules) (isExplain : Bool) : Parser Unit := do
  if isExplain && (d == .postgresql || d == .generic) && (← nextIsSymbol "(") then
    discard (parenthesized (commaList (utilityOption r)))
  else if ← takeAny [["QUERY", "PLAN"], ["ESTIMATE"]] then pure ()
  else
    discard (takeKeyword "ANALYZE")
    discard (takeKeyword "VERBOSE")
    discard (afterKeyword "FORMAT" planFormat)

/-- A statement whose plan is shown, which is no such statement itself, or the name of a table. -/
def explanation (d : Dialect) (r : Rules) (isExplain : Bool) : Parser Unit := do
  planOptions d r isExplain
  let nested := (← peekKeyword).any ["EXPLAIN", "DESCRIBE", "DESC"].contains
  match ← attempt r.statement with
  | some _ => if nested then failAt none
  | none =>
    discard (takeOneOf ["EXTENDED", "FORMATTED"])
    discard (objectName d)

/-! ## Prepared statements and cursors -/

def routineCall (d : Dialect) (r : Rules) : Parser Unit := do
  let name ← objectName d
  if ← nextIsSymbol "(" then discard (plainCall d r name)

/-- The parameters of a prepared statement, in parentheses or not. -/
def executionParameters (r : Rules) : Parser Unit := do
  if ← nextIsSymbol "(" then discard (parenthesized (commaListUntil ")" r.full))
  else
    let closes := (← peekKeyword).any ["USING", "OUTPUT", "DEFAULT"].contains
    if (← peek).isSome && !closes && !(← nextIsSymbol ";") then discard (commaList r.full)

def execution (d : Dialect) (r : Rules) : Parser Unit := do
  discard (objectName d)
  executionParameters r
  discard (afterKeyword "INTO" (commaList ident))
  discard (afterKeyword "USING" (commaList do discard r.full; afterKeyword "AS" ident))
  discard (takeKeyword "OUTPUT")
  discard (takeKeyword "DEFAULT")

def preparation (r : Rules) : Parser Unit := do
  discard ident
  if ← nextIsSymbol "(" then discard (parenthesized (commaList r.dataType))
  expectKeyword "AS"
  discard r.statement

def cursorDeclaration (r : Rules) : Parser Unit := do
  discard ident
  discard (takeKeyword "BINARY")
  discard (takeOneOf ["INSENSITIVE", "ASENSITIVE"])
  discard (takeAny [["SCROLL"], ["NO", "SCROLL"]])
  expectKeyword "CURSOR"
  if (← takeOneOf ["WITH", "WITHOUT"]).isSome then expectKeyword "HOLD"
  expectKeyword "FOR"
  discard r.query

/-- A variable of one dialect, or a cursor. -/
def variableDeclaration (r : Rules) : Parser Unit := do
  let name ← ident
  let isCursor ← takeKeyword "CURSOR"
  if !isCursor then
    if !name.text.startsWith "@" then failAt none
    discard (takeKeyword "AS")
    discard r.dataType
  if ← takeKeyword "FOR" then discard r.query
  else if ← takeSymbol "=" then discard r.full

def cursorMove (d : Dialect) : Parser Unit := do
  match ← takeOneOf ["NEXT", "PRIOR", "FIRST", "LAST", "ABSOLUTE", "RELATIVE", "FORWARD", "BACKWARD", "ALL"] with
  | some "ABSOLUTE" | some "RELATIVE" | none => discard (numberValue d)
  | some "FORWARD" | some "BACKWARD" => if !(← takeKeyword "ALL") then discard (numberValue d)
  | some _ => pure ()

def cursorFetch (d : Dialect) : Parser Unit := do
  cursorMove d
  discard (expectOneOf ["FROM", "IN"])
  discard ident
  discard (afterKeyword "INTO" (objectName d))

/-! ## Bulk data -/

def copyFlag : Parser Unit := discard (takeOneOf ["TRUE", "FALSE"])

def copyOption (d : Dialect) : Parser Unit := do
  match ← expectOneOf ["FORMAT", "FREEZE", "DELIMITER", "NULL", "HEADER", "QUOTE", "ESCAPE", "FORCE_QUOTE",
      "FORCE_NOT_NULL", "FORCE_NULL", "ENCODING"] with
  | "FORMAT" => discard ident
  | "FREEZE" | "HEADER" => copyFlag
  | "FORCE_QUOTE" | "FORCE_NOT_NULL" | "FORCE_NULL" => discard (columnList false)
  | _ => discard (literalString d)

/-- Options that stand without parentheses. -/
def bareCopyOption (d : Dialect) : Parser (Option Unit) := do
  match ← takeOneOf ["BINARY", "CSV", "HEADER", "DELIMITER", "NULL"] with
  | some "DELIMITER" | some "NULL" => discard (takeKeyword "AS"); discard (literalString d); return some ()
  | some _ => return some ()
  | none => return none

/-- Rows that follow the statement run to the end of the text. -/
def copiedRows : Parser Unit := do
  expectSymbol ";"
  set ([] : List Lexeme)

def copy (d : Dialect) (r : Rules) : Parser Unit := do
  let isQuery ← nextIsSymbol "("
  if isQuery then discard (parenthesized r.query)
  else
    discard (objectName d)
    discard (optionalColumnList false)
  let incoming := (← expectOneOf ["FROM", "TO"]) == "FROM"
  if isQuery && incoming then failAt none
  let inline ← takeKeyword "STDIN"
  if !inline then
    if !(← takeKeyword "STDOUT") then
      discard (takeKeyword "PROGRAM")
      discard (literalString d)
  discard (takeKeyword "WITH")
  if ← nextIsSymbol "(" then discard (parenthesized (commaList (copyOption d)))
  discard (many (bareCopyOption d))
  if inline then copiedRows

/-! ## The rest -/

/-- A setting's value: a string, a number or a placeholder. -/
def pragmaValue (d : Dialect) : Parser Unit := do
  let start ← place
  match ← value d with
  | .string _ | .doubleQuoted _ | .number _ _ | .placeholder _ => pure ()
  | _ => failAt start

def pragma (d : Dialect) : Parser Unit := do
  discard (objectName d)
  if ← nextIsSymbol "(" then parenthesized (pragmaValue d)
  else if ← takeSymbol "=" then pragmaValue d

def analysis (d : Dialect) (r : Rules) : Parser Unit := do
  discard (takeKeyword "TABLE")
  discard (objectName d)
  discard (many do
    match ← takeOneOf ["PARTITION", "FOR", "CACHE", "NOSCAN", "COMPUTE"] with
    | some "PARTITION" => discard (exprList r); return some ()
    | some "FOR" => expectKeyword "COLUMNS"; discard (attempt (commaList ident)); return some ()
    | some "CACHE" => expectKeyword "METADATA"; return some ()
    | some "COMPUTE" => expectKeyword "STATISTICS"; return some ()
    | some _ => return some ()
    | none => return none)

def killing (d : Dialect) : Parser Unit := do
  let kind ← takeOneOf ["CONNECTION", "QUERY", "MUTATION"]
  discard literalNumber
  if kind == some "MUTATION" && d != .generic then unexpected

def flush (d : Dialect) : Parser Unit := do
  if !(d == .mysql || d == .generic) then unexpected
  discard (takeOneOf ["NO_WRITE_TO_BINLOG", "LOCAL"])
  if ← takeAny [["BINARY", "LOGS"], ["ENGINE", "LOGS"], ["ERROR", "LOGS"], ["GENERAL", "LOGS"], ["HOSTS"],
      ["PRIVILEGES"], ["OPTIMIZER_COSTS"], ["SLOW", "LOGS"], ["STATUS"], ["USER_RESOURCES"], ["LOGS"]] then pure ()
  else if ← takeKeywords ["RELAY", "LOGS"] then
    discard (afterKeywords ["FOR", "CHANNEL"] (objectName d))
  else
    expectKeyword "TABLES"
    let next ← peek
    if next.isSome && !next.any (isSymbol ";") && !(← nextIsKeyword "WITH") && !(← nextIsKeyword "FOR") then
      discard (commaList (objectName d))
    discard (takeAny [["WITH", "READ", "LOCK"], ["FOR", "EXPORT"]])

def optimization (d : Dialect) (r : Rules) : Parser Unit := do
  expectKeyword "TABLE"
  discard (objectName d)
  onCluster
  if ← takeKeyword "PARTITION" then
    if ← takeKeyword "ID" then discard ident else discard r.full
  discard (takeKeyword "FINAL")
  if ← takeKeyword "DEDUPLICATE" then discard (afterKeyword "BY" r.full)

def raisedError (r : Rules) : Parser Unit := do
  parenthesized do
    discard r.full
    expectSymbol ","
    discard r.full
    expectSymbol ","
    discard r.full
    if ← takeSymbol "," then discard (commaList r.full)
  discard (afterKeyword "WITH" (commaList (expectOneOf ["LOG", "NOWAIT", "SETERROR"])))

def raised (r : Rules) : Parser Unit := do
  if ← takeKeywords ["USING", "MESSAGE"] then
    expectSymbol "="
    discard r.full
  else discard (attempt r.full)

def tableLock : Parser Unit := do
  discard ident
  if ← takeKeyword "AS" then discard ident
  else
    match ← peek with
    | some (.word w) =>
      if !(["READ", "WRITE", "LOW_PRIORITY"].any (w.keyword == some ·)) then skip
    | some (.string _) => skip
    | _ => pure ()
  if ← takeKeyword "READ" then discard (takeKeyword "LOCAL")
  else expectAny [["WRITE"], ["LOW_PRIORITY", "WRITE"]]

def remark (d : Dialect) : Parser Unit := do
  discard ifExists
  expectKeyword "ON"
  expectAny [["COLUMN"], ["DATABASE"], ["DOMAIN"], ["EXTENSION"], ["FUNCTION"], ["INDEX"], ["MATERIALIZED", "VIEW"],
    ["PROCEDURE"], ["ROLE"], ["SCHEMA"], ["SEQUENCE"], ["TABLE"], ["TYPE"], ["USER"], ["VIEW"]]
  discard (objectName d)
  expectKeyword "IS"
  if ← takeKeyword "NULL" then pure () else discard (literalString d)

def repair (d : Dialect) : Parser Unit := do
  discard (takeKeyword "REPAIR")
  expectKeyword "TABLE"
  discard (objectName d)
  if (← takeOneOf ["ADD", "DROP", "SYNC"]).isSome then expectKeyword "PARTITIONS"

/-- Statements of single dialects. -/
def dialectStatement? (d : Dialect) (r : Rules) (k : String) : Option (Parser Unit) :=
  match d, k with
  | .generic, "DETACH" => some (do discard (takeKeyword "DATABASE"); discard ifExists; discard ident)
  | .generic, "INSTALL" => some (discard ident)
  | .generic, "LOAD" => some (discard ident)
  | .generic, "OPTIMIZE" => some (optimization d r)
  | .generic, "COMMENT" => some (remark d)
  | .postgresql, "COMMENT" => some (remark d)
  | .postgresql, "LISTEN" => some (discard ident)
  | .postgresql, "UNLISTEN" => some (do if !(← takeSymbol "*") then discard ident)
  | .postgresql, "NOTIFY" => some (do discard ident; if ← takeSymbol "," then discard (literalString d))
  | .mssql, "IF" => some (looseIf r)
  | _, "IF" => some (ifStatement r)
  | .mssql, "DECLARE" => some (discard (commaList (variableDeclaration r)))
  | _, "DECLARE" => some (cursorDeclaration r)
  | .mssql, "END" => some (do discard (takeOneOf ["TRY", "CATCH"]); endTransaction)
  | _, "END" => some endTransaction
  | _, "LOAD" => some (do discard (takeKeyword "DATA"); unexpected)
  | _, _ => none

/-- The rest of a statement that `k` opens; nothing if no statement starts so. -/
def utility? (d : Dialect) (r : Rules) (k : String) : Option (Parser Unit) :=
  match k with
  | "CREATE" => some (create d r)
  | "DROP" => some (drop d r)
  | "ALTER" => some (alter d r)
  | "TRUNCATE" => some (truncate d r)
  | "SET" => some (setStatement d r)
  | "EXPLAIN" => some (explanation d r true)
  | "DESCRIBE" | "DESC" => some (explanation d r false)
  | "SHOW" => some (showStatement d r)
  | "USE" => some (discard (objectName d))
  | "START" => some (do expectKeyword "TRANSACTION"; transactionModes)
  | "BEGIN" => some (beginTransaction d)
  | "COMMIT" => some endTransaction
  | "ROLLBACK" => some rollback
  | "SAVEPOINT" => some (discard ident)
  | "RELEASE" => some (do discard (takeKeyword "SAVEPOINT"); discard ident)
  | "GRANT" => some (grant d r)
  | "REVOKE" => some (revoke d r)
  | "DENY" => some (deny d r)
  | "MERGE" => some (mergeStatement d r)
  | "CALL" => some (routineCall d r)
  | "EXECUTE" | "EXEC" => some (execution d r)
  | "PREPARE" => some (preparation r)
  | "DEALLOCATE" => some (do discard (takeKeyword "PREPARE"); discard ident)
  | "FETCH" => some (cursorFetch d)
  | "OPEN" => some (discard ident)
  | "CLOSE" => some (do if !(← takeKeyword "ALL") then discard ident)
  | "COPY" => some (copy d r)
  | "PRAGMA" => some (pragma d)
  | "ANALYZE" => some (analysis d r)
  | "KILL" => some (killing d)
  | "FLUSH" => some (flush d)
  | "RENAME" =>
    some (do
      expectKeyword "TABLE"
      discard (commaList (do discard (objectName d); expectKeyword "TO"; discard (objectName d))))
  | "ATTACH" => some (do discard (takeKeyword "DATABASE"); discard r.full; expectKeyword "AS"; discard ident)
  | "MSCK" => some (repair d)
  | "UNCACHE" => some (do expectKeyword "TABLE"; discard ifExists; discard (objectName d))
  | "ASSERT" => some (do discard r.full; discard (afterKeyword "AS" r.full))
  | "DISCARD" => some (discard (expectOneOf ["ALL", "PLANS", "SEQUENCES", "TEMP", "TEMPORARY"]))
  | "PRINT" => some (discard r.full)
  | "RETURN" => some (discard (attempt r.full))
  | "RAISE" => some (raised r)
  | "RAISERROR" => some (raisedError r)
  | "CASE" => some (caseStatement r)
  | "WHILE" => some (whileStatement r)
  | _ => dialectStatement? d r k

end SqlTemplate.Grammar
