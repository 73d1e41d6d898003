/-
Statements that give privileges, take them back and forbid them.
-/
import SqlTemplate.Grammar.Alteration

namespace SqlTemplate.Grammar

open SqlTemplate.Grammar.Parser

/-! ## What is granted -/

/-- Privileges that may be limited to columns. -/
def columnPrivileges : List String := ["INSERT", "REFERENCES", "SELECT", "UPDATE"]

def wholePrivileges : List (List String) :=
  [["IMPORTED", "PRIVILEGES"], ["ADD", "SEARCH", "OPTIMIZATION"], ["ATTACH", "LISTING"], ["ATTACH", "POLICY"],
    ["BIND", "SERVICE", "ENDPOINT"], ["EVOLVE", "SCHEMA"], ["IMPORT", "SHARE"], ["MANAGE", "VERSIONS"],
    ["MANAGE", "RELEASES"], ["OVERRIDE", "SHARE", "RESTRICTIONS"], ["PURCHASE", "DATA", "EXCHANGE", "LISTING"],
    ["RESOLVE", "ALL"], ["READ", "SESSION"], ["APPLYBUDGET"], ["AUDIT"], ["CONNECT"], ["DELETE"], ["FAILOVER"],
    ["OPERATE"], ["READ"], ["REPLICATE"], ["TEMPORARY"], ["TRIGGER"], ["TRUNCATE"], ["USAGE"], ["OWNERSHIP"], ["DROP"]]

/-- What may be created by one who has the privilege to. -/
def creatableObjects : List (List String) :=
  [["APPLICATION", "PACKAGE"], ["COMPUTE", "POOL"], ["DATA", "EXCHANGE", "LISTING"], ["EXTERNAL", "VOLUME"],
    ["FAILOVER", "GROUP"], ["NETWORK", "POLICY"], ["ORGANIZATION", "LISTING"], ["REPLICATION", "GROUP"], ["ACCOUNT"],
    ["APPLICATION"], ["DATABASE"], ["INTEGRATION"], ["ROLE"], ["SCHEMA"], ["SHARE"], ["USER"], ["WAREHOUSE"]]

def runnableObjects : List (List String) :=
  [["DATA", "METRIC", "FUNCTION"], ["MANAGED", "ALERT"], ["MANAGED", "TASK"], ["TASK"], ["ALERT"]]

def privilege (d : Dialect) : Parser Unit := do
  if ← takeKeywords ["DATABASE", "ROLE"] then discard (objectName d)
  else if ← takeAny wholePrivileges then pure ()
  else if ← takeKeyword "CREATE" then discard (takeAny creatableObjects)
  else if ← takeAny [["EXECUTE"], ["EXEC"]] then discard (takeAny runnableObjects)
  else if ← takeKeyword "ROLE" then discard (objectName d)
  else
    discard (expectOneOf columnPrivileges)
    discard (optionalColumnList false)

def privileges (d : Dialect) : Parser Unit := do
  if ← takeKeyword "ALL" then discard (takeKeyword "PRIVILEGES") else discard (commaList (privilege d))

/-! ## On what -/

/-- A name whose parts may be stars. -/
def patternName : Nat → Parser Unit
  | 0 => pure ()
  | n + 1 => do
    if !(← takeSymbol "*") then discard ident
    if ← takeSymbol "." then patternName n

/-- All objects of a kind in certain places, now or in time to come. -/
def objectGroups : List (List String) :=
  [["ALL", "TABLES", "IN", "SCHEMA"], ["ALL", "EXTERNAL", "TABLES", "IN", "SCHEMA"], ["ALL", "VIEWS", "IN", "SCHEMA"],
    ["ALL", "MATERIALIZED", "VIEWS", "IN", "SCHEMA"], ["ALL", "FUNCTIONS", "IN", "SCHEMA"],
    ["FUTURE", "SCHEMAS", "IN", "DATABASE"], ["FUTURE", "TABLES", "IN", "SCHEMA"],
    ["FUTURE", "EXTERNAL", "TABLES", "IN", "SCHEMA"], ["FUTURE", "VIEWS", "IN", "SCHEMA"],
    ["FUTURE", "MATERIALIZED", "VIEWS", "IN", "SCHEMA"], ["ALL", "SEQUENCES", "IN", "SCHEMA"],
    ["FUTURE", "SEQUENCES", "IN", "SCHEMA"], ["RESOURCE", "MONITOR"], ["COMPUTE", "POOL"], ["FAILOVER", "GROUP"],
    ["REPLICATION", "GROUP"], ["EXTERNAL", "VOLUME"]]

/-- The types that tell a routine apart. -/
def routineTypes (r : Rules) : Parser Unit := do
  if ← nextIsSymbol "(" then discard (parenthesized (commaListUntil ")" r.dataType))

def objects (d : Dialect) (r : Rules) : Parser Unit := do
  if ← takeAny objectGroups then discard (commaList (objectName d))
  else
    let kind ← takeOneOf ["SEQUENCE", "DATABASE", "SCHEMA", "TABLE", "VIEW", "WAREHOUSE", "INTEGRATION", "USER",
      "CONNECTION", "PROCEDURE", "FUNCTION"]
    discard (commaList do patternName ((← remaining) + 1))
    if kind == some "PROCEDURE" || kind == some "FUNCTION" then routineTypes r

def onObjects (d : Dialect) (r : Rules) : Parser Bool := do
  if ← takeKeyword "ON" then objects d r; return true
  else return false

/-! ## To whom -/

/-- Those who are meant; a word for what they are holds until the next one. -/
def granteeLoop (d : Dialect) (isPublic : Bool) : Nat → Parser Unit
  | 0 => pure ()
  | n + 1 => do
    let everyone ←
      if ← takeKeyword "PUBLIC" then pure true
      else if ← takeAny [["ROLE"], ["USER"], ["SHARE"], ["GROUP"], ["DATABASE", "ROLE"], ["APPLICATION", "ROLE"],
          ["APPLICATION"]] then pure false
      else pure isPublic
    if !everyone then
      userName d
      if ← takeSymbol ":" then discard ident
    if ← takeSymbol "," then granteeLoop d everyone n

def grantees (d : Dialect) : Parser Unit := do
  granteeLoop d false ((← remaining) + 1)

def grant (d : Dialect) (r : Rules) : Parser Unit := do
  privileges d
  discard (onObjects d r)
  expectKeyword "TO"
  grantees d
  discard (takeKeywords ["WITH", "GRANT", "OPTION"])
  discard (takeAny [["COPY", "CURRENT", "GRANTS"], ["REVOKE", "CURRENT", "GRANTS"]])
  discard (afterKeyword "AS" ident)
  discard (afterKeywords ["GRANTED", "BY"] ident)

def revoke (d : Dialect) (r : Rules) : Parser Unit := do
  privileges d
  discard (onObjects d r)
  expectKeyword "FROM"
  grantees d
  discard (afterKeywords ["GRANTED", "BY"] ident)
  discard cascade

def deny (d : Dialect) (r : Rules) : Parser Unit := do
  privileges d
  if !(← onObjects d r) then unexpected
  expectKeyword "TO"
  grantees d
  discard cascade
  discard (afterKeyword "AS" ident)

end SqlTemplate.Grammar
