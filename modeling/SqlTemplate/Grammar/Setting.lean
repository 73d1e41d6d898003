/-
Statements about transactions and settings, and those that show what there is.
-/
import SqlTemplate.Grammar.Privilege

namespace SqlTemplate.Grammar

open SqlTemplate.Grammar.Parser

/-! ## Transactions -/

/-- The modes of a transaction, with or without commas between them. After a comma one must follow. -/
def transactionModeLoop (required : Bool) : Nat → Parser Unit
  | 0 => pure ()
  | n + 1 => do
    if ← takeKeywords ["ISOLATION", "LEVEL"] then
      expectAny [["READ", "UNCOMMITTED"], ["READ", "COMMITTED"], ["REPEATABLE", "READ"], ["SERIALIZABLE"], ["SNAPSHOT"]]
      transactionModeLoop (← takeSymbol ",") n
    else if ← takeAny [["READ", "ONLY"], ["READ", "WRITE"]] then transactionModeLoop (← takeSymbol ",") n
    else if required then unexpected
    else pure ()

def transactionModes : Parser Unit := do transactionModeLoop false ((← remaining) + 1)

def beginTransaction (d : Dialect) : Parser Unit := do
  if d == .sqlite || d == .mssql || d == .generic then
    discard (takeOneOf ["DEFERRED", "IMMEDIATE", "EXCLUSIVE", "TRY", "CATCH"])
  discard (takeOneOf ["TRANSACTION", "WORK"])
  transactionModes

/-- The end of a transaction, and whether another one follows. -/
def endTransaction : Parser Unit := do
  discard (takeOneOf ["TRANSACTION", "WORK"])
  if ← takeKeyword "AND" then
    discard (takeKeyword "NO")
    expectKeyword "CHAIN"

def rollback : Parser Unit := do
  endTransaction
  if ← takeKeyword "TO" then
    discard (takeKeyword "SAVEPOINT")
    discard ident

/-! ## SET -/

def settingScope : Parser Bool := do return (← takeOneOf ["SESSION", "LOCAL", "GLOBAL"]).isSome

/-- A value of a setting. A token that cannot start one is passed over before the failure is told. -/
def settingValue (r : Rules) : Parser Unit := fun ts =>
  let isQuery := (ts.head?.bind (·.token.keyword?)).any fun k => k == "SELECT" || k == "WITH"
  match if isQuery then (discard r.query : Parser Unit) ts else (discard r.full : Parser Unit) ts with
  | .error (.unexpected l) =>
    if !isQuery && l == ts.head?.map Lexeme.location then .error (.unexpected (ts[1]?.map Lexeme.location))
    else .error (.unexpected l)
  | outcome => outcome

def scopedSetting (d : Dialect) (r : Rules) : Parser Unit := do
  discard settingScope
  discard (objectName d)
  if !(← takeSymbol "=") then expectKeyword "TO"
  discard r.full

def onOrOff : Parser Unit := discard (expectOneOf ["ON", "OFF"])

/-- Settings of one dialect that take no operator. -/
def bareSetting (d : Dialect) (r : Rules) : Parser Unit := do
  if ← takeKeyword "STATISTICS" then
    discard (expectOneOf ["IO", "PROFILE", "TIME", "XML"])
    onOrOff
  else if ← takeKeyword "IDENTITY_INSERT" then
    discard (objectName d)
    onOrOff
  else if ← takeKeyword "OFFSETS" then
    discard (commaList expectWord)
    onOrOff
  else
    discard (commaList expectWord)
    discard r.full

/-- Several settings in parentheses, and their values likewise. -/
def settingTuple (r : Rules) : Parser Unit := do
  discard (columnList false)
  if !(← takeSymbol "=") then expectKeyword "TO"
  discard (parenthesized (commaList (settingValue r)))

def oneSetting (d : Dialect) (r : Rules) : Parser Unit := do
  let before ← tokens
  discard (objectName d)
  if ← takeAny [["TO"]] then discard (commaList (settingValue r))
  else if ← takeSymbol "=" then discard (commaList (settingValue r))
  else if d == .mssql then
    let taken := before.length - (← remaining)
    set (before.drop (taken - 1))
    bareSetting d r
  else unexpected

def setNames (d : Dialect) : Parser Unit := do
  if ← takeKeyword "DEFAULT" then pure ()
  else
    discard ident
    discard (afterKeyword "COLLATE" (literalString d))

def zoneSetting (r : Rules) : Parser Unit := do
  if ← takeSymbol "=" then discard (commaList (settingValue r))
  else if ← takeKeyword "TO" then discard (commaList (settingValue r))
  else discard r.full

def plainSetting (d : Dialect) (r : Rules) (scope : List Lexeme) : Parser Unit := do
  let several ←
    if d == .mysql || d == .generic then
      let here ← tokens
      set scope
      let found ← attempt (commaList (scopedSetting d r))
      if found.isNone then set here
      pure found.isSome
    else pure false
  if several then pure ()
  else if d == .generic && (← nextIsSymbol "(") then settingTuple r
  else oneSetting d r

def setStatement (d : Dialect) (r : Rules) : Parser Unit := do
  let scope ← tokens
  let hasScope ← settingScope
  if (← attempt (do expectKeyword "ROLE"; ident)).isSome then pure ()
  else if ← takeAny [["TIME", "ZONE"], ["TIMEZONE"]] then zoneSetting r
  else if ← takeWhere (d == .mysql || d == .generic) (takeKeyword "NAMES") then setNames d
  else if ← takeKeyword "CHARACTERISTICS" then
    expectKeywords ["AS", "TRANSACTION"]
    transactionModes
  else if ← takeKeyword "TRANSACTION" then
    if ← takeKeyword "SNAPSHOT" then discard (value d) else transactionModes
  else if ← takeWhere hasScope (takeKeyword "AUTHORIZATION") then discard ident
  else plainSetting d r scope

/-! ## SHOW -/

def showFilter (d : Dialect) (r : Rules) : Parser Unit := do
  match ← takeOneOf ["LIKE", "ILIKE", "WHERE"] with
  | some "WHERE" => discard r.full
  | some _ => discard (literalString d)
  | none => discard (attempt (literalString d))

/-- Where the shown objects are. -/
def showPlace (d : Dialect) : Parser Unit := do
  if (← takeOneOf ["FROM", "IN"]).isSome then
    if (← takeOneOf ["ACCOUNT", "DATABASE", "SCHEMA", "TABLE", "VIEW"]).isSome then
      if !(← nextIsKeyword "LIMIT") && !(← nextIsKeyword "STARTS") then discard (attempt (objectName d))
    else
      discard (objectName d)
      if (← takeOneOf ["FROM", "IN"]).isSome then discard ident

def showOptions (d : Dialect) (r : Rules) : Parser Unit := do
  showPlace d
  showFilter d r
  discard (afterKeywords ["STARTS", "WITH"] (value d))
  discard (afterKeyword "LIMIT" r.full)
  discard (afterKeyword "FROM" (value d))

/-- A variable by its words: everything up to the end, an equals sign or a semicolon. -/
def showVariable : Nat → Parser Unit
  | 0 => pure ()
  | n + 1 => do
    if (← peek).isNone || (← nextIsSymbol "=") || (← nextIsSymbol ";") then pure ()
    else
      skip
      showVariable n

def showStatement (d : Dialect) (r : Rules) : Parser Unit := do
  discard (takeKeyword "TERSE")
  let extended ← takeKeyword "EXTENDED"
  let full ← takeKeyword "FULL"
  discard (takeKeyword "SESSION")
  discard (takeKeyword "GLOBAL")
  discard (takeKeyword "EXTERNAL")
  if ← takeAny [["COLUMNS"], ["FIELDS"], ["TABLES"], ["MATERIALIZED", "VIEWS"], ["VIEWS"]] then showOptions d r
  else if ← takeKeyword "FUNCTIONS" then showFilter d r
  else if extended || full then failAt none
  else if ← takeKeyword "CREATE" then
    discard (expectOneOf ["TABLE", "TRIGGER", "FUNCTION", "PROCEDURE", "EVENT", "VIEW"])
    discard (objectName d)
  else if ← takeKeyword "COLLATION" then showFilter d r
  else if (← takeKeyword "VARIABLES") && (d == .mysql || d == .generic) then showFilter d r
  else if (← takeKeyword "STATUS") && (d == .mysql || d == .generic) then showFilter d r
  else if ← takeAny [["DATABASES"], ["SCHEMAS"]] then
    discard (takeKeyword "HISTORY")
    showOptions d r
  else showVariable (← remaining)

end SqlTemplate.Grammar
