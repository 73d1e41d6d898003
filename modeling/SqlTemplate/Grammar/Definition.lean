/-
Statements that define tables, views, indexes and the like. They are recognised, so that a text
which is none of them is refused, and their content is dropped.
-/
import SqlTemplate.Grammar.Block

namespace SqlTemplate.Grammar

open SqlTemplate.Grammar.Parser

/-! ## Tables -/

/-- The cluster on which a statement takes effect. -/
def onCluster : Parser Unit := discard (afterKeywords ["ON", "CLUSTER"] ident)

/-- A table to copy from; a token that starts no name is passed over. -/
def modelTable (d : Dialect) : Parser Unit := do
  if (← attempt (objectName d)).isNone then skip

/-- Options that give a setting a value, with or without an equals sign. -/
def valuedOptions : List (List String) :=
  [["DEFAULT", "CHARSET"], ["CHARSET"], ["DEFAULT", "CHARACTER", "SET"], ["CHARACTER", "SET"], ["DEFAULT", "COLLATE"],
    ["COLLATE"], ["DATA", "DIRECTORY"], ["INDEX", "DIRECTORY"], ["KEY_BLOCK_SIZE"], ["ROW_FORMAT"], ["PACK_KEYS"],
    ["STATS_AUTO_RECALC"], ["STATS_PERSISTENT"], ["STATS_SAMPLE_PAGES"], ["DELAY_KEY_WRITE"], ["COMPRESSION"],
    ["ENCRYPTION"], ["MAX_ROWS"], ["MIN_ROWS"], ["AUTOEXTEND_SIZE"], ["AVG_ROW_LENGTH"], ["CHECKSUM"], ["CONNECTION"],
    ["ENGINE_ATTRIBUTE"], ["PASSWORD"], ["SECONDARY_ENGINE_ATTRIBUTE"], ["INSERT_METHOD"], ["AUTO_INCREMENT"]]

def expectWord : Parser Unit := do
  match ← peek with
  | some (.word _) => skip
  | _ => unexpected

def engine : Parser Unit := do
  expectWord
  if ← nextIsSymbol "(" then discard (parenthesized (commaListUntil ")" ident))

def storageMedium : Parser Unit := do
  discard (takeSymbol "=")
  match ← peek with
  | some (.word w) => if ["DISK", "MEMORY"].contains (Text.capitals w.text) then skip else unexpected
  | _ => unexpected

def tablespace : Parser Unit := do
  match ← peek with
  | some (.word _) => skip
  | some (.string _) => skip
  | _ => unexpected
  discard (afterKeyword "STORAGE" storageMedium)

def plainComment : Parser Unit := do
  match ← peek with
  | some (.string _) => skip
  | _ => failAt none

def optionValue (d : Dialect) : Parser Unit := do
  if (← attempt (value d)).isNone then discard ident

/-- One option after the columns of a table, such as the engine, and a comma if there is one. -/
def plainOption (d : Dialect) : Parser (Option Unit) := do
  let found ←
    if ← takeKeywords ["START", "TRANSACTION"] then pure true
    else if ← takeKeyword "COMMENT" then discard (takeSymbol "="); plainComment; pure true
    else if ← takeKeyword "ENGINE" then discard (takeSymbol "="); engine; pure true
    else if ← takeKeyword "TABLESPACE" then discard (takeSymbol "="); tablespace; pure true
    else if ← takeKeyword "UNION" then
      discard (takeSymbol "=")
      discard (parenthesized (commaListUntil ")" ident))
      pure true
    else if ← takeAny valuedOptions then discard (takeSymbol "="); optionValue d; pure true
    else pure false
  if found then
    discard (takeSymbol ",")
    return some ()
  else return none

/-- How the rows of one dialect are put into buckets. -/
def buckets (d : Dialect) (r : Rules) : Parser Unit :=
  discard (afterKeywords ["CLUSTERED", "BY"] do
    discard (columnList false)
    discard (afterKeywords ["SORTED", "BY"] (parenthesized (sortKeys d r)))
    expectKeyword "INTO"
    discard (numberValue d)
    expectKeyword "BUCKETS")

/-- How the rows of a table are laid out. -/
def tableLayout (d : Dialect) (r : Rules) : Parser Unit := do
  discard (afterKeyword "INHERITS" (nameList d))
  let settings ← optionsAfter ["WITH"] d r
  let properties ← optionsAfter ["TBLPROPERTIES"] d r
  if d == .postgresql || d == .generic then discard (afterKeywords ["PARTITION", "BY"] r.full)
  if d == .generic then discard (afterKeywords ["CLUSTER", "BY"] (commaList r.full))
  let options ← if d == .generic then optionsAfter ["OPTIONS"] d r else pure false
  if !(settings || properties || options) then discard (many (plainOption d))

def tableOrder (r : Rules) : Parser Unit :=
  discard (afterKeywords ["ORDER", "BY"] do
    if ← nextIsSymbol "(" then discard (parenthesized (commaListUntil ")" r.full)) else discard r.full)

def onCommit : Parser Unit :=
  discard (afterKeywords ["ON", "COMMIT"] do
    if ← takeAny [["DELETE", "ROWS"], ["PRESERVE", "ROWS"], ["DROP"]] then pure () else failAt none)

def createTable (d : Dialect) (r : Rules) : Parser Unit := do
  discard ifNotExists
  discard (objectName d)
  onCluster
  if ← takeAny [["LIKE"], ["ILIKE"]] then modelTable d
  if ← takeKeyword "CLONE" then modelTable d
  tableElements d r
  discard (takeKeywords ["WITHOUT", "ROWID"])
  discard (afterKeywords ["PARTITIONED", "BY"] (parenthesized (commaList (columnDefinition d r))))
  if d == .generic then buckets d r
  tableLayout d r
  if d == .generic then discard (afterKeywords ["PRIMARY", "KEY"] r.full)
  tableOrder r
  onCommit
  discard (takeKeyword "STRICT")
  if ← takeKeyword "AS" then discard r.query
  else if d == .mysql && (← nextIsKeyword "SELECT") then discard r.query

/-- A table of one dialect that a module provides. -/
def createVirtualTable (d : Dialect) : Parser Unit := do
  expectKeyword "TABLE"
  discard ifNotExists
  discard (objectName d)
  expectKeyword "USING"
  discard ident
  discard (optionalColumnList true)

/-! ## Views and indexes -/

/-- The name of a user, which in one dialect may say from where. -/
def userName (d : Dialect) : Parser Unit := do
  let name ← objectName d
  if (d == .mysql || d == .generic) && name.length == 1 then
    if ← takeSymbol "@" then discard ident

/-- What a view is run as, before the word VIEW. -/
def viewWords (d : Dialect) : Parser Unit := do
  discard (afterKeyword "ALGORITHM" do expectSymbol "="; expectOneOf ["UNDEFINED", "MERGE", "TEMPTABLE"])
  discard (afterKeyword "DEFINER" do expectSymbol "="; userName d)
  discard (afterKeywords ["SQL", "SECURITY"] (expectOneOf ["DEFINER", "INVOKER"]))

def viewColumns (d : Dialect) (r : Rules) : Parser Unit := do
  if ← nextIsSymbol "(" then
    discard (parenthesized (commaListUntil ")" do discard ident; columnOptions d r))

def createView (d : Dialect) (r : Rules) : Parser Unit := do
  if d == .sqlite || d == .generic then discard ifNotExists
  discard (objectName d)
  viewColumns d r
  discard (optionsAfter ["WITH"] d r)
  discard (afterKeyword "CLUSTER" do expectKeyword "BY"; optionalColumnList false)
  if d == .generic then
    discard (optionsAfter ["OPTIONS"] d r)
    discard (afterKeyword "TO" (objectName d))
    discard (afterKeyword "COMMENT" do expectSymbol "="; commentText)
  expectKeyword "AS"
  discard r.query
  if d == .generic then discard (takeKeywords ["WITH", "NO", "SCHEMA", "BINDING"])

/-- How a change is carried out, and which lock it takes. -/
def changeMode : Parser Bool := do
  match ← takeOneOf ["ALGORITHM", "LOCK"] with
  | some "ALGORITHM" =>
    discard (takeSymbol "=")
    discard (expectOneOf ["DEFAULT", "INSTANT", "INPLACE", "COPY"])
    return true
  | some _ =>
    discard (takeSymbol "=")
    discard (expectOneOf ["DEFAULT", "EXCLUSIVE", "NONE", "SHARED"])
    return true
  | none => return false

def createIndex (d : Dialect) (r : Rules) : Parser Unit := do
  discard (takeKeyword "CONCURRENTLY")
  let named ← ifNotExists
  if named || !(← nextIsKeyword "ON") then
    discard (objectName d)
    discard indexMethod
  expectKeyword "ON"
  discard (objectName d)
  discard indexMethod
  indexColumns d r
  discard (afterKeyword "INCLUDE" (parenthesized (commaList ident)))
  nullsDistinct
  if d == .postgresql || d == .generic then discard (afterKeyword "WITH" (exprList r))
  discard (afterKeyword "WHERE" r.full)
  indexOptions d
  discard (many do if ← changeMode then return some () else return none)

/-! ## Other objects -/

def createSchema (d : Dialect) (r : Rules) : Parser Unit := do
  discard ifNotExists
  if ← takeKeyword "AUTHORIZATION" then discard ident
  else
    discard (objectName d)
    discard (afterKeyword "AUTHORIZATION" ident)
  discard (afterKeywords ["DEFAULT", "COLLATE"] r.full)
  discard (optionsAfter ["WITH"] d r)
  discard (optionsAfter ["OPTIONS"] d r)

def createDatabase (d : Dialect) : Parser Unit := do
  discard ifNotExists
  discard (objectName d)
  discard (many do
    if (← takeOneOf ["LOCATION", "MANAGEDLOCATION"]).isSome then discard (literalString d); return some ()
    else return none)

def createSequence (d : Dialect) (r : Rules) : Parser Unit := do
  discard ifNotExists
  discard (objectName d)
  discard (afterKeyword "AS" r.dataType)
  sequenceOptions d
  discard (afterKeywords ["OWNED", "BY"] (objectName d))

/-- Attributes of a type up to the closing parenthesis, before which a comma may stand. -/
def typeAttributes (d : Dialect) (r : Rules) : Nat → Parser Unit
  | 0 => pure ()
  | n + 1 => do
    discard ident
    discard r.dataType
    discard (afterKeyword "COLLATE" (objectName d))
    let comma ← takeSymbol ","
    if ← takeSymbol ")" then pure ()
    else if comma then typeAttributes d r n
    else unexpected

def createType (d : Dialect) (r : Rules) : Parser Unit := do
  discard (objectName d)
  expectKeyword "AS"
  if ← takeKeyword "ENUM" then discard (parenthesized (commaListUntil ")" ident))
  else if ← takeSymbol "(" then
    if !(← takeSymbol ")") then typeAttributes d r (← remaining)

def createExtension : Parser Unit := do
  discard ifNotExists
  discard ident
  if ← takeKeyword "WITH" then
    discard (afterKeyword "SCHEMA" ident)
    discard (afterKeyword "VERSION" ident)
    discard (takeKeyword "CASCADE")

def createDomain (d : Dialect) (r : Rules) : Parser Unit := do
  discard (objectName d)
  expectKeyword "AS"
  discard r.dataType
  discard (afterKeyword "COLLATE" ident)
  discard (afterKeyword "DEFAULT" r.full)
  discard (many do if ← tableConstraint d r then return some () else return none)

def owner : Parser Unit := do
  if (← takeOneOf ["CURRENT_USER", "CURRENT_ROLE", "SESSION_USER"]).isNone then discard ident

def policyRules (r : Rules) : Parser Unit := do
  discard (afterKeyword "TO" (commaList owner))
  discard (afterKeyword "USING" (parenthesized r.full))
  discard (afterKeywords ["WITH", "CHECK"] (parenthesized r.full))

def createPolicy (d : Dialect) (r : Rules) : Parser Unit := do
  discard ident
  expectKeyword "ON"
  discard (objectName d)
  discard (afterKeyword "AS" (expectOneOf ["PERMISSIVE", "RESTRICTIVE"]))
  discard (afterKeyword "FOR" (expectOneOf ["ALL", "SELECT", "INSERT", "UPDATE", "DELETE"]))
  policyRules r

def createServer (d : Dialect) : Parser Unit := do
  discard ifNotExists
  discard (objectName d)
  discard (afterKeyword "TYPE" ident)
  discard (afterKeyword "VERSION" ident)
  expectKeywords ["FOREIGN", "DATA", "WRAPPER"]
  discard (objectName d)
  discard (afterKeyword "OPTIONS" (parenthesized (commaList do discard ident; ident)))

/-- An option of a role in the dialect that has most of them. -/
def roleOption (d : Dialect) : Parser (Option Unit) := do
  match ← takeOneOf ["LOGIN", "NOLOGIN", "INHERIT", "NOINHERIT", "BYPASSRLS", "NOBYPASSRLS", "CREATEDB", "NOCREATEDB",
      "CREATEROLE", "NOCREATEROLE", "SUPERUSER", "NOSUPERUSER", "REPLICATION", "NOREPLICATION", "PASSWORD",
      "CONNECTION", "VALID", "IN", "ROLE", "ADMIN", "USER"] with
  | some "PASSWORD" => discard (value d); return some ()
  | some "CONNECTION" => expectKeyword "LIMIT"; discard (numberValue d); return some ()
  | some "VALID" => expectKeyword "UNTIL"; discard (value d); return some ()
  | some "IN" => discard (expectOneOf ["ROLE", "GROUP"]); discard (commaList ident); return some ()
  | some "ROLE" | some "ADMIN" | some "USER" => discard (commaList ident); return some ()
  | some _ => return some ()
  | none => return none

def createRole (d : Dialect) : Parser Unit := do
  discard ifNotExists
  discard (commaList (objectName d))
  discard (takeKeyword "WITH")
  if d == .postgresql then discard (many (roleOption d))
  else if d == .mssql then discard (afterKeyword "AUTHORIZATION" (objectName d))

/-- A named expression or query with parameters, of one dialect. -/
def createShorthand (d : Dialect) (r : Rules) : Parser Unit := do
  discard (objectName d)
  discard (parenthesized (commaListUntil ")" do
    discard ident
    if (← takeSymbol ":=") || (← nextIsSymbol "=>") then
      discard (takeSymbol "=>")
      discard r.full))
  expectKeyword "AS"
  if ← takeKeyword "TABLE" then discard r.query else discard r.full

/-! ## CREATE -/

/-- Objects that may be replaced by the definition. -/
def replaceable? (d : Dialect) (r : Rules) (k : String) : Option (Parser Unit) :=
  match k with
  | "TABLE" => some (createTable d r)
  | "VIEW" => some (createView d r)
  | "MATERIALIZED" => some (do expectKeyword "VIEW"; createView d r)
  | "POLICY" => some (createPolicy d r)
  | "EXTERNAL" =>
    some (do
      expectKeyword "TABLE"
      discard ifNotExists
      discard (objectName d)
      tableElements d r)
  | "FUNCTION" =>
    if d == .postgresql || d == .generic then some (createFunction d r)
    else if d == .mssql then some (createBlockFunction d r)
    else none
  | "DOMAIN" => some (createDomain d r)
  | "TRIGGER" =>
    match d with
    | .sqlite => none
    | .mssql => some (createTableTrigger d r)
    | _ => some (createTrigger d r)
  | "MACRO" => if d == .generic then some (createShorthand d r) else none
  | _ => none

def creatable? (d : Dialect) (r : Rules) (k : String) : Option (Parser Unit) :=
  match k with
  | "EXTENSION" => some createExtension
  | "INDEX" => some (createIndex d r)
  | "VIRTUAL" => some (createVirtualTable d)
  | "SCHEMA" => some (createSchema d r)
  | "DATABASE" => some (createDatabase d)
  | "ROLE" => some (createRole d)
  | "SEQUENCE" => some (createSequence d r)
  | "TYPE" => some (createType d r)
  | "PROCEDURE" => some (createProcedure d r)
  | "SERVER" => some (createServer d)
  | _ => none

def create (d : Dialect) (r : Rules) : Parser Unit := do
  let replaces ← takeKeywords ["OR", "REPLACE"]
  discard (takeKeywords ["OR", "ALTER"])
  discard (takeKeyword "LOCAL")
  discard (takeKeyword "GLOBAL")
  discard (takeKeyword "TRANSIENT")
  discard (takeOneOf ["TEMP", "TEMPORARY"])
  viewWords d
  if ← takeWhere (d != .sqlite) (takeKeywords ["CONSTRAINT", "TRIGGER"]) then createTrigger d r
  else if ← takeWhere (!replaces) (takeKeywords ["UNIQUE", "INDEX"]) then createIndex d r
  else
    let k := (← peekKeyword).getD ""
    match replaceable? d r k with
    | some rest => skip; rest
    | none =>
      match if replaces then none else creatable? d r k with
      | some rest => skip; rest
      | none => unexpected

end SqlTemplate.Grammar
