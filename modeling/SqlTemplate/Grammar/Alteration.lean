/-
Statements that change, empty and remove what was defined. Like definitions they are recognised and
their content is dropped.
-/
import SqlTemplate.Grammar.Definition

namespace SqlTemplate.Grammar

open SqlTemplate.Grammar.Parser

/-! ## ALTER TABLE -/

def newPartitions (r : Rules) : Parser Bool := do
  return !(← many (afterKeyword "PARTITION" (exprList r))).isEmpty

def addition (d : Dialect) (r : Rules) : Parser Unit := do
  if ← tableConstraint d r then discard (takeKeywords ["NOT", "VALID"])
  else
    discard ifNotExists
    if ← newPartitions r then pure ()
    else
      discard (takeKeyword "COLUMN")
      if d == .postgresql || d == .generic then discard ifNotExists
      columnDefinition d r
      columnPosition d

def newName (d : Dialect) : Parser Unit := do
  if ← takeWhere (d == .postgresql) (takeKeyword "CONSTRAINT") then
    discard ident
    expectKeyword "TO"
    discard ident
  else if ← takeAny [["TO"], ["AS"]] then discard (objectName d)
  else
    discard (takeKeyword "COLUMN")
    discard ident
    expectKeyword "TO"
    discard ident

def disabled : Parser Unit := do
  if ← takeKeywords ["ROW", "LEVEL", "SECURITY"] then pure ()
  else
    discard (expectOneOf ["RULE", "TRIGGER"])
    discard ident

def enabled : Parser Unit := do
  if ← takeKeywords ["ROW", "LEVEL", "SECURITY"] then pure ()
  else
    expectAny [["ALWAYS", "RULE"], ["ALWAYS", "TRIGGER"], ["REPLICA", "RULE"], ["REPLICA", "TRIGGER"], ["RULE"],
      ["TRIGGER"]]
    discard ident

def removal (d : Dialect) (r : Rules) : Parser Unit := do
  if ← takeAny [["IF", "EXISTS", "PARTITION"], ["PARTITION"]] then discard (exprList r)
  else if ← takeKeyword "CONSTRAINT" then
    discard ifExists
    discard ident
    discard cascade
  else if ← takeKeywords ["PRIMARY", "KEY"] then discard cascade
  else if ← takeKeywords ["FOREIGN", "KEY"] then
    discard ident
    discard cascade
  else if ← takeKeyword "INDEX" then discard ident
  else if ← takeWhere (d == .generic) (takeKeyword "PROJECTION") then
    discard ifExists
    discard ident
  else if ← takeKeywords ["CLUSTERING", "KEY"] then pure ()
  else
    discard (takeKeyword "COLUMN")
    discard ifExists
    discard ident
    discard cascade

def partitionMove (r : Rules) : Parser Unit := do
  discard (exprList r)
  expectKeywords ["RENAME", "TO", "PARTITION"]
  discard (exprList r)

/-- A type and options for a column, and where it goes. -/
def newColumn (d : Dialect) (r : Rules) : Parser Unit := do
  discard ident
  discard r.dataType
  columnOptions d r
  columnPosition d

def newType (d : Dialect) (r : Rules) : Parser Unit := do
  discard r.dataType
  if d == .postgresql then discard (afterKeyword "USING" r.full)

def columnChange (d : Dialect) (r : Rules) : Parser Unit := do
  discard (takeKeyword "COLUMN")
  discard ident
  if ← takeAny [["SET", "NOT", "NULL"], ["DROP", "NOT", "NULL"], ["DROP", "DEFAULT"]] then pure ()
  else if ← takeKeywords ["SET", "DEFAULT"] then discard r.full
  else if ← takeAny [["SET", "DATA", "TYPE"], ["TYPE"]] then newType d r
  else
    if !(← takeKeywords ["ADD", "GENERATED"]) then unexpected
    discard (takeAny [["ALWAYS"], ["BY", "DEFAULT"]])
    expectKeywords ["AS", "IDENTITY"]
    optionalSequence d

def replicaIdentity : Parser Unit := do
  if ← takeAny [["NONE"], ["FULL"], ["DEFAULT"]] then pure ()
  else
    if !(← takeKeywords ["USING", "INDEX"]) then unexpected
    discard ident

/-- A change that several words open, or settings. -/
def otherAlteration (d : Dialect) (r : Rules) : Parser Unit := do
  if ← takeWhere (d == .postgresql || d == .generic) (takeKeywords ["OWNER", "TO"]) then owner
  else if ← takeKeywords ["CLUSTER", "BY"] then discard (exprList r)
  else if ← takeAny [["SUSPEND", "RECLUSTER"], ["RESUME", "RECLUSTER"]] then pure ()
  else if ← changeMode then pure ()
  else if ← takeKeyword "AUTO_INCREMENT" then
    discard (takeSymbol "=")
    discard (numberValue d)
  else if ← takeKeywords ["REPLICA", "IDENTITY"] then replicaIdentity
  else if ← takeKeywords ["VALIDATE", "CONSTRAINT"] then discard ident
  else if ← optionsAfter ["SET", "TBLPROPERTIES"] d r then pure ()
  else if ← optionsAfter ["SET"] d r then pure ()
  else unexpected

def alteration (d : Dialect) (r : Rules) : Parser Unit := do
  match ← takeOneOf ["ADD", "RENAME", "DISABLE", "ENABLE", "DROP", "PARTITION", "CHANGE", "MODIFY", "ALTER", "SWAP"] with
  | some "ADD" => addition d r
  | some "RENAME" => newName d
  | some "DISABLE" => disabled
  | some "ENABLE" => enabled
  | some "DROP" => removal d r
  | some "PARTITION" => partitionMove r
  | some "CHANGE" => discard (takeKeyword "COLUMN"); discard ident; newColumn d r
  | some "MODIFY" => discard (takeKeyword "COLUMN"); newColumn d r
  | some "ALTER" => columnChange d r
  | some _ => expectKeyword "WITH"; discard (objectName d)
  | none => otherAlteration d r

def alterTable (d : Dialect) (r : Rules) : Parser Unit := do
  discard ifExists
  discard (takeKeyword "ONLY")
  discard (objectName d)
  onCluster
  discard (commaList (alteration d r))
  if ← takeAny [["LOCATION"], ["SET", "LOCATION"]] then discard ident

/-! ## Other changes -/

def alterView (d : Dialect) (r : Rules) : Parser Unit := do
  discard (objectName d)
  discard (optionalColumnList false)
  discard (optionsAfter ["WITH"] d r)
  expectKeyword "AS"
  discard r.query

def alterType (d : Dialect) : Parser Unit := do
  discard (objectName d)
  if ← takeKeywords ["RENAME", "TO"] then discard ident
  else if ← takeKeywords ["ADD", "VALUE"] then
    discard ifNotExists
    discard ident
    if (← takeOneOf ["BEFORE", "AFTER"]).isSome then discard ident
  else if ← takeKeywords ["RENAME", "VALUE"] then
    discard ident
    expectKeyword "TO"
    discard ident
  else unexpected

def alterPolicy (d : Dialect) (r : Rules) : Parser Unit := do
  discard ident
  expectKeyword "ON"
  discard (objectName d)
  if ← takeKeyword "RENAME" then
    expectKeyword "TO"
    discard ident
  else policyRules r

/-- A change of a role, in the dialects that have one. -/
def alterRole (d : Dialect) (r : Rules) : Parser Unit := do
  if d == .mssql then
    discard ident
    if ← takeAny [["ADD", "MEMBER"], ["DROP", "MEMBER"]] then discard ident
    else
      expectKeywords ["WITH", "NAME"]
      expectSymbol "="
      discard ident
  else if d == .postgresql then
    discard ident
    if ← takeKeywords ["IN", "DATABASE"] then discard (objectName d)
    if ← takeKeyword "RENAME" then
      expectKeyword "TO"
      discard ident
    else if ← takeKeyword "SET" then
      discard (objectName d)
      if !(← takeKeywords ["FROM", "CURRENT"]) then
        if !(← takeSymbol "=") then expectKeyword "TO"
        if !(← takeKeyword "DEFAULT") then discard r.full
    else if ← takeKeyword "RESET" then
      if !(← takeKeyword "ALL") then discard (objectName d)
    else
      discard (takeKeyword "WITH")
      if (← many (roleOption d)).isEmpty then unexpected
  else failAt none

def alter (d : Dialect) (r : Rules) : Parser Unit := do
  match ← expectOneOf ["VIEW", "TYPE", "TABLE", "INDEX", "ROLE", "POLICY", "ICEBERG"] with
  | "TABLE" => alterTable d r
  | "ICEBERG" => expectKeyword "TABLE"; alterTable d r
  | "VIEW" => alterView d r
  | "TYPE" => alterType d
  | "ROLE" => alterRole d r
  | "POLICY" => alterPolicy d r
  | _ => discard (objectName d); expectKeywords ["RENAME", "TO"]; discard (objectName d)

/-! ## DROP and TRUNCATE -/

def dropRoutines (d : Dialect) (r : Rules) : Parser Unit := do
  discard ifExists
  discard (commaList (routineSignature d r))
  discard cascade

def dropTrigger (d : Dialect) : Parser Unit := do
  discard ifExists
  discard (objectName d)
  discard (afterKeyword "ON" (objectName d))
  discard cascade

def dropPolicy (d : Dialect) : Parser Unit := do
  discard ifExists
  discard ident
  expectKeyword "ON"
  discard (objectName d)
  discard cascade

def dropExtension : Parser Unit := do
  discard ifExists
  discard (commaList ident)
  discard cascade

def dropDomain (d : Dialect) : Parser Unit := do
  discard ifExists
  discard (objectName d)
  discard cascade

/-- Objects to drop. CASCADE and RESTRICT exclude each other, and a role takes neither. -/
def dropObjects (d : Dialect) (isRole : Bool) : Parser Unit := do
  discard ifExists
  discard (commaList (objectName d))
  let start ← place
  let cascades ← takeKeyword "CASCADE"
  let restricts ← takeKeyword "RESTRICT"
  let purges ← takeKeyword "PURGE"
  if (cascades && restricts) || (isRole && (cascades || restricts || purges)) then failAt start
  discard (afterKeyword "ON" (objectName d))

def drop (d : Dialect) (r : Rules) : Parser Unit := do
  if d == .mysql || d == .generic then discard (takeKeyword "TEMPORARY")
  match ← peekKeyword with
  | some "FUNCTION" | some "PROCEDURE" => skip; dropRoutines d r
  | some "TRIGGER" => if d == .sqlite then unexpected else skip; dropTrigger d
  | some "POLICY" => skip; dropPolicy d
  | some "EXTENSION" => skip; dropExtension
  | some "DOMAIN" => skip; dropDomain d
  | some "ROLE" => skip; dropObjects d true
  | _ =>
    expectAny [["TABLE"], ["VIEW"], ["MATERIALIZED", "VIEW"], ["INDEX"], ["SCHEMA"], ["DATABASE"], ["SEQUENCE"],
      ["STAGE"], ["TYPE"]]
    dropObjects d false

def truncate (d : Dialect) (r : Rules) : Parser Unit := do
  discard (takeKeyword "TABLE")
  discard (takeKeyword "ONLY")
  discard (commaList (objectName d))
  discard (afterKeyword "PARTITION" (exprList r))
  if d == .postgresql || d == .generic then
    discard (takeAny [["RESTART", "IDENTITY"], ["CONTINUE", "IDENTITY"]])
    discard cascade
  onCluster

end SqlTemplate.Grammar
