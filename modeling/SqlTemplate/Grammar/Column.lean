/-
Columns of a table and the constraints on them. Nothing of them is analysed: the rules tell whether
a definition is well formed, and where it ceases to be.
-/
import SqlTemplate.Grammar.Query

namespace SqlTemplate.Grammar

open SqlTemplate.Grammar.Parser

def ifNotExists : Parser Bool := takeKeywords ["IF", "NOT", "EXISTS"]

def ifExists : Parser Bool := takeKeywords ["IF", "EXISTS"]

def cascade : Parser Bool := takeAny [["CASCADE"], ["RESTRICT"]]

def exprList (r : Rules) : Parser (List Expr) := parenthesized (commaList r.full)

/-! ## Options in parentheses -/

def clusteredStorage : Parser Unit := do
  if ← takeKeywords ["CLUSTERED", "COLUMNSTORE", "INDEX", "ORDER"] then discard (columnList false)
  else if ← takeKeywords ["CLUSTERED", "COLUMNSTORE", "INDEX"] then pure ()
  else if ← takeKeywords ["CLUSTERED", "INDEX"] then
    discard (parenthesized (commaList (do discard ident; takeOneOf ["ASC", "DESC"])))
  else failAt none

def partitionScheme (r : Rules) : Parser Unit :=
  parenthesized do
    discard ident
    expectKeyword "RANGE"
    discard (takeOneOf ["LEFT", "RIGHT"])
    expectKeywords ["FOR", "VALUES"]
    discard (exprList r)

def namedOption (r : Rules) : Parser Unit := do
  discard ident
  expectSymbol "="
  discard r.full

/-- A name and its value, or how the rows are stored. -/
def storageOption (d : Dialect) (r : Rules) : Parser Unit := do
  if d == .mssql || d == .generic then
    match ← peekKeyword with
    | some "HEAP" => skip
    | some "PARTITION" => skip; partitionScheme r
    | some "CLUSTERED" => clusteredStorage
    | _ => namedOption r
  else namedOption r

/-- Options in parentheses after keywords; whether there is one. -/
def optionsAfter (ks : List String) (d : Dialect) (r : Rules) : Parser Bool := do
  if ← takeKeywords ks then
    return !(← parenthesized (commaListUntil ")" (storageOption d r))).isEmpty
  else return false

/-! ## Numbers of a sequence -/

/-- A bound of a sequence, which may be declared absent. -/
def sequenceBound (d : Dialect) (k : String) : Parser Unit := do
  if ← takeKeyword k then discard (signedNumber d) else discard (takeKeywords ["NO", k])

def sequenceOptions (d : Dialect) : Parser Unit := do
  discard (afterKeyword "INCREMENT" do discard (takeKeyword "BY"); signedNumber d)
  sequenceBound d "MINVALUE"
  sequenceBound d "MAXVALUE"
  discard (afterKeyword "START" do discard (takeKeyword "WITH"); signedNumber d)
  discard (afterKeyword "CACHE" (signedNumber d))
  discard (takeAny [["NO", "CYCLE"], ["CYCLE"]])

def optionalSequence (d : Dialect) : Parser Unit := do
  if ← nextIsSymbol "(" then parenthesized (sequenceOptions d)

/-! ## References and traits -/

/-- Whether a constraint is enforced, and when. -/
def constraintTraits : Parser Unit :=
  anyOrder [
    takeAny [["NOT", "DEFERRABLE"], ["DEFERRABLE"]],
    do
      if ← takeKeyword "INITIALLY" then expectAny [["DEFERRED"], ["IMMEDIATE"]]; return true
      else return false,
    takeAny [["ENFORCED"], ["NOT", "ENFORCED"]]]

def referentialAction (event : String) : Parser Bool := do
  if ← takeKeywords ["ON", event] then
    expectAny [["RESTRICT"], ["CASCADE"], ["SET", "NULL"], ["NO", "ACTION"], ["SET", "DEFAULT"]]
    return true
  else return false

/-- What follows the word REFERENCES. -/
def references (d : Dialect) : Parser Unit := do
  discard (objectName d)
  discard (optionalColumnList false)
  anyOrder [referentialAction "DELETE", referentialAction "UPDATE"]
  constraintTraits

/-! ## Columns -/

def commentText : Parser Unit := do
  match ← peek with
  | some (.string _) => skip
  | some (.dollarQuoted _ _) => skip
  | _ => unexpected

def storedOrVirtual : Parser Unit := discard (takeAny [["STORED"], ["VIRTUAL"]])

/-- What follows the word GENERATED; nothing if it is none of the known forms. -/
def generated (d : Dialect) (r : Rules) : Parser Bool := do
  if ← takeAny [["ALWAYS", "AS", "IDENTITY"], ["BY", "DEFAULT", "AS", "IDENTITY"]] then
    optionalSequence d
    return true
  else if ← takeKeywords ["ALWAYS", "AS"] then
    if ← nextIsSymbol "(" then
      discard (parenthesized r.full)
      if d == .postgresql then expectKeyword "STORED" else storedOrVirtual
      return true
    else return false
  else return false

def identityBounds (d : Dialect) : Parser Unit := do
  if ← nextIsSymbol "(" then
    parenthesized do
      discard (signedNumber d)
      expectSymbol ","
      discard (signedNumber d)

/-- Options of some dialects. Their words are passed over in the others, where they mean nothing. -/
def dialectOption (d : Dialect) (r : Rules) : Parser Bool := do
  if (← takeKeyword "AUTO_INCREMENT") && (d == .mysql || d == .generic) then return true
  if (← takeKeyword "AUTOINCREMENT") && (d == .sqlite || d == .generic) then return true
  if (← takeKeyword "ASC") && (d == .sqlite || d == .generic) then return true
  if (← takeKeyword "DESC") && (d == .sqlite || d == .generic) then return true
  if (← takeKeywords ["ON", "UPDATE"]) && (d == .mysql || d == .generic) then discard r.full; return true
  if ← takeKeyword "GENERATED" then return ← generated d r
  if d == .generic && (← nextIsKeyword "OPTIONS") then discard (optionsAfter ["OPTIONS"] d r); return true
  if (← takeKeyword "AS") && (d == .mysql || d == .sqlite || d == .generic) then
    discard (parenthesized r.full)
    storedOrVirtual
    return true
  if (← takeKeyword "SRID") && (d == .mysql || d == .generic) then discard r.full; return true
  if (← takeKeyword "IDENTITY") && (d == .mssql || d == .generic) then identityBounds d; return true
  if ← takeWhere (d == .sqlite || d == .generic) (takeKeywords ["ON", "CONFLICT"]) then
    discard (expectOneOf ["ROLLBACK", "ABORT", "FAIL", "IGNORE", "REPLACE"])
    return true
  return false

/-- How a column of one dialect gets its value. -/
def derivedDefault (r : Rules) : Parser Bool := do
  match ← takeOneOf ["MATERIALIZED", "ALIAS", "EPHEMERAL"] with
  | some "EPHEMERAL" =>
    if !(← nextIsSymbol ",") && !(← nextIsSymbol ")") then discard r.full
    return true
  | some _ => discard r.full; return true
  | none => return false

/-- One option of a column, if there is one. -/
def columnOption (d : Dialect) (r : Rules) : Parser Bool := do
  if ← takeAny [["CHARACTER", "SET"], ["COLLATE"]] then discard (objectName d); return true
  else if ← takeAny [["NOT", "NULL"], ["NULL"]] then return true
  else if ← takeKeyword "COMMENT" then commentText; return true
  else if ← takeKeyword "DEFAULT" then discard r.full; return true
  else if ← takeWhere (d == .generic) (derivedDefault r) then return true
  else if ← takeAny [["PRIMARY", "KEY"], ["UNIQUE"]] then constraintTraits; return true
  else if ← takeKeyword "REFERENCES" then references d; return true
  else if ← takeKeyword "CHECK" then discard (parenthesized r.full); return true
  else dialectOption d r

def columnOptions (d : Dialect) (r : Rules) : Parser Unit :=
  discard (many do if ← columnOption d r then return some () else return none)

/-- One option of a column, which may have a name. -/
def namedColumnOption (d : Dialect) (r : Rules) : Parser (Option Unit) := do
  if ← takeKeyword "CONSTRAINT" then
    discard ident
    if ← columnOption d r then return some () else unexpected
  else if ← columnOption d r then return some ()
  else return none

/-- Whether a column has no type, which one dialect allows. -/
def lacksType (d : Dialect) : Parser Bool := do
  if d != .sqlite then return false
  match ← peek with
  | some (.word w) =>
    return ["CONSTRAINT", "PRIMARY", "NOT", "UNIQUE", "CHECK", "DEFAULT", "COLLATE", "REFERENCES", "GENERATED",
      "AS"].any (w.keyword == some ·)
  | _ => return true

def columnDefinition (d : Dialect) (r : Rules) : Parser Unit := do
  discard ident
  if !(← lacksType d) then discard r.dataType
  discard (many (namedColumnOption d r))

/-! ## Constraints of a table -/

def indexColumn (d : Dialect) (r : Rules) : Parser Unit := do
  discard r.full
  if !(["ASC", "DESC", "NULLS", "WITH"].any ((← peekKeyword) == some ·)) then discard (attempt ident)
  discard (direction d r)

def indexColumns (d : Dialect) (r : Rules) : Parser Unit := discard (parenthesized (commaList (indexColumn d r)))

def indexMethod : Parser Bool := do return (← afterKeyword "USING" ident).isSome

def indexOptions (d : Dialect) : Parser Unit :=
  discard (many do
    if ← indexMethod then return some ()
    else if ← takeKeyword "COMMENT" then discard (literalString d); return some ()
    else return none)

def nullsDistinct : Parser Unit :=
  discard (afterKeyword "NULLS" do discard (takeKeyword "NOT"); expectKeyword "DISTINCT")

/-- The rest of a constraint that an index upholds. -/
def keyConstraint (d : Dialect) (r : Rules) : Parser Unit := do
  discard (attempt ident)
  discard indexMethod
  indexColumns d r
  indexOptions d
  constraintTraits

def uniqueConstraint (d : Dialect) (r : Rules) : Parser Unit := do
  if (← takeOneOf ["KEY", "INDEX"]).isSome && !(d == .mysql || d == .generic) then unexpected
  nullsDistinct
  keyConstraint d r

def foreignKey (d : Dialect) : Parser Unit := do
  discard (attempt ident)
  discard (columnList false)
  expectKeyword "REFERENCES"
  references d

def checkConstraint (r : Rules) : Parser Unit := do
  discard (parenthesized r.full)
  discard (takeAny [["ENFORCED"], ["NOT", "ENFORCED"]])

/-- An index that some dialects define along with the table. -/
def tableIndex (d : Dialect) (r : Rules) : Parser Unit := do
  if !(← nextIsKeyword "USING") then discard (attempt ident)
  discard indexMethod
  indexColumns d r

def textIndex (d : Dialect) (r : Rules) : Parser Unit := do
  discard (takeOneOf ["KEY", "INDEX"])
  discard (attempt ident)
  indexColumns d r

/-- A constraint of a table, if there is one. A name calls for one, and indexes take none. -/
def tableConstraint (d : Dialect) (r : Rules) : Parser Bool := do
  let named := (← afterKeyword "CONSTRAINT" ident).isSome
  let hasIndexes := (d == .mysql || d == .generic) && !named
  match ← peekKeyword with
  | some "UNIQUE" => skip; uniqueConstraint d r; return true
  | some "PRIMARY" => skip; expectKeyword "KEY"; keyConstraint d r; return true
  | some "FOREIGN" => skip; expectKeyword "KEY"; foreignKey d; return true
  | some "CHECK" => skip; checkConstraint r; return true
  | some k =>
    if hasIndexes && (k == "INDEX" || k == "KEY") then skip; tableIndex d r; return true
    else if hasIndexes && (k == "FULLTEXT" || k == "SPATIAL") then skip; textIndex d r; return true
    else if named then unexpected
    else return false
  | none => if named then unexpected else return false

def tableElement (d : Dialect) (r : Rules) : Parser Unit := do
  if ← tableConstraint d r then pure ()
  else
    match ← peek with
    | some (.word _) => columnDefinition d r
    | _ => unexpected

/-- Columns and constraints in parentheses, which may be missing or empty. -/
def tableElements (d : Dialect) (r : Rules) : Parser Unit := do
  if ← nextIsSymbol "(" then discard (parenthesized (commaListUntil ")" (tableElement d r)))

/-- Where a new column goes. -/
def columnPosition (d : Dialect) : Parser Unit := do
  if d == .mysql || d == .generic then
    if ← takeKeyword "AFTER" then discard ident else discard (takeKeyword "FIRST")

end SqlTemplate.Grammar
