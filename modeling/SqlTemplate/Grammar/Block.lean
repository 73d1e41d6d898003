/-
Statements that hold other statements: branches, loops and the bodies of routines.
-/
import SqlTemplate.Grammar.Column

namespace SqlTemplate.Grammar

open SqlTemplate.Grammar.Parser

/-! ## Lists of statements -/

/-- Statements, each with a semicolon after it, up to one of the closing keywords or the end. -/
def statementListLoop (r : Rules) (closing : List String) : Nat → Parser Unit
  | 0 => pure ()
  | n + 1 => do
    let next ← peekKeyword
    if (← peek).isNone || next.any closing.contains then pure ()
    else
      discard r.statement
      expectSymbol ";"
      statementListLoop r closing n

def statementList (r : Rules) (closing : List String) : Parser Unit := do
  statementListLoop r closing (← remaining)

/-- Statements that may stand between BEGIN and END. -/
def body? (r : Rules) (closing : List String) : Parser Unit := do
  if ← takeKeyword "BEGIN" then
    statementList r closing
    expectKeyword "END"
  else statementList r closing

/-- A condition and the statements that it guards. -/
def guarded (r : Rules) (closing : List String) : Parser Unit := do
  discard r.full
  expectKeyword "THEN"
  body? r closing

def guardedLoop (k : String) (r : Rules) (closing : List String) : Nat → Parser Unit
  | 0 => pure ()
  | n + 1 => do
    if ← takeKeyword k then
      guarded r closing
      guardedLoop k r closing n

/-- Further branches that `k` opens, and what to do if none is taken. -/
def otherBranches (k : String) (r : Rules) : Parser Unit := do
  guardedLoop k r [k, "ELSE", "END"] (← remaining)
  discard (afterKeyword "ELSE" (body? r ["END"]))
  expectKeyword "END"

def caseStatement (r : Rules) : Parser Unit := do
  if !(← nextIsKeyword "WHEN") then
    discard r.full
    if !(← nextIsKeyword "WHEN") then unexpected
  otherBranches "WHEN" r
  discard (takeKeyword "CASE")

def ifStatement (r : Rules) : Parser Unit := do
  guarded r ["ELSE", "ELSEIF", "END"]
  otherBranches "ELSEIF" r
  expectKeyword "IF"

def whileStatement (r : Rules) : Parser Unit := do
  discard r.full
  body? r ["END"]

/-! ## Blocks with optional semicolons -/

def semicolons : Parser Unit := discard (many do if ← takeSymbol ";" then return some () else return none)

def looseListLoop (r : Rules) : Nat → Parser Unit
  | 0 => pure ()
  | n + 1 => do
    if (← peek).isNone || (← nextIsKeyword "END") then pure ()
    else
      discard r.statement
      semicolons
      looseListLoop r n

/-- A statement, or several between BEGIN and END. -/
def looseBlock (r : Rules) : Parser Unit := do
  if ← takeKeyword "BEGIN" then
    looseListLoop r (← remaining)
    expectKeyword "END"
  else discard r.statement

/-- A branch without THEN. Semicolons before ELSE belong to it. -/
def looseIf (r : Rules) : Parser Unit := do
  discard r.full
  looseBlock r
  discard (attempt do
    semicolons
    if !(← nextIsKeyword "ELSE") then unexpected)
  discard (afterKeyword "ELSE" (looseBlock r))

/-! ## Routines -/

/-- A parameter with an optional mode, name and default. -/
def routineParameter (r : Rules) : Parser Unit := do
  discard (takeOneOf ["IN", "OUT", "INOUT"])
  discard r.dataType
  discard (attempt r.dataType)
  if (← takeKeyword "DEFAULT") || (← nextIsSymbol "=") then
    discard (takeSymbol "=")
    discard r.full

/-- A routine, which may be told apart by its parameters. -/
def routineSignature (d : Dialect) (r : Rules) : Parser Unit := do
  discard (objectName d)
  if ← nextIsSymbol "(" then discard (parenthesized (commaListUntil ")" (routineParameter r)))

def functionText (d : Dialect) : Parser Unit := do
  match ← peek with
  | some (.dollarQuoted _ _) => skip
  | _ => discard (literalString d)

/-- The parts of a function's definition after its signature. -/
def functionParts (d : Dialect) (r : Rules) : List (Parser Bool) :=
  [ do
      if ← takeKeyword "AS" then functionText d; return true
      else if ← takeKeyword "RETURN" then discard r.full; return true
      else return false,
    do return (← afterKeyword "LANGUAGE" ident).isSome,
    takeAny [["IMMUTABLE"], ["STABLE"], ["VOLATILE"]],
    takeAny [["CALLED", "ON", "NULL", "INPUT"], ["RETURNS", "NULL", "ON", "NULL", "INPUT"], ["STRICT"]],
    do return (← afterKeyword "PARALLEL" (expectAny [["UNSAFE"], ["RESTRICTED"], ["SAFE"]])).isSome ]

def createFunction (d : Dialect) (r : Rules) : Parser Unit := do
  discard (objectName d)
  discard (parenthesized (commaListUntil ")" (routineParameter r)))
  discard (afterKeyword "RETURNS" r.dataType)
  anyOrder (functionParts d r)
  if (← takeFirst (functionParts d r)).isSome then failAt none

def variableParameter (r : Rules) : Parser Unit := do
  discard ident
  discard r.dataType
  if ← takeSymbol "=" then discard r.full

/-- The body of a function that is a block or one expression. -/
def functionBlock (r : Rules) : Parser Unit := do
  if ← takeKeyword "BEGIN" then
    statementList r ["END"]
    expectKeyword "END"
  else
    expectKeyword "RETURN"
    if ← nextIsSymbol "(" then discard r.full
    else if ← nextIsKeyword "SELECT" then discard r.query
    else unexpected

def createBlockFunction (d : Dialect) (r : Rules) : Parser Unit := do
  discard (objectName d)
  discard (parenthesized (commaListUntil ")" (variableParameter r)))
  expectKeyword "RETURNS"
  let named ← attempt do
    discard ident
    if ← nextIsKeyword "TABLE" then discard r.dataType else unexpected
  if named.isNone then discard r.dataType
  discard (takeKeyword "AS")
  functionBlock r

def procedureParameter (r : Rules) : Parser Unit := do
  discard (takeOneOf ["IN", "OUT", "INOUT"])
  discard ident
  discard r.dataType

/-- Parameters up to the closing parenthesis, before which a comma may stand. -/
def procedureParameters (r : Rules) : Nat → Parser Unit
  | 0 => pure ()
  | n + 1 => do
    match ← peek with
    | some (.word _) => procedureParameter r
    | _ => pure ()
    let comma ← takeSymbol ","
    if ← takeSymbol ")" then pure ()
    else if comma then procedureParameters r n
    else unexpected

def createProcedure (d : Dialect) (r : Rules) : Parser Unit := do
  discard (objectName d)
  if ← takeSymbol "(" then
    if !(← takeSymbol ")") then procedureParameters r (← remaining)
  discard (afterKeyword "LANGUAGE" ident)
  expectKeyword "AS"
  body? r ["END"]

/-! ## Triggers -/

def triggerEvent : Parser Unit := do
  if ← takeKeyword "UPDATE" then
    discard (afterKeyword "OF" (commaList ident))
  else discard (expectOneOf ["INSERT", "DELETE", "TRUNCATE"])

def triggerEvents : Nat → Parser Unit
  | 0 => pure ()
  | n + 1 => do
    triggerEvent
    if ← takeKeyword "OR" then triggerEvents n

def transitionTable (d : Dialect) : Parser (Option Unit) := do
  if (← takeOneOf ["OLD", "NEW"]).isSome then
    expectKeyword "TABLE"
    discard (takeKeyword "AS")
    discard (objectName d)
    return some ()
  else return none

def triggerAction (d : Dialect) (r : Rules) : Parser Unit := do
  if ← takeKeyword "EXECUTE" then
    discard (expectOneOf ["FUNCTION", "PROCEDURE"])
    routineSignature d r
  else body? r ["END"]

def triggerTime : Parser Unit := do
  if !(← takeKeywords ["INSTEAD", "OF"]) then discard (expectOneOf ["FOR", "BEFORE", "AFTER"])

/-- A trigger of one dialect, which names its table first. -/
def createTableTrigger (d : Dialect) (r : Rules) : Parser Unit := do
  discard (objectName d)
  expectKeyword "ON"
  discard (objectName d)
  triggerTime
  discard (commaList triggerEvent)
  expectKeyword "AS"
  body? r ["END"]

def createTrigger (d : Dialect) (r : Rules) : Parser Unit := do
  discard (objectName d)
  triggerTime
  triggerEvents ((← remaining) + 1)
  expectKeyword "ON"
  discard (objectName d)
  discard (afterKeyword "FROM" (objectName d))
  constraintTraits
  discard (afterKeyword "REFERENCING" (many (transitionTable d)))
  expectKeyword "FOR"
  discard (takeKeyword "EACH")
  discard (expectOneOf ["ROW", "STATEMENT"])
  discard (afterKeyword "WHEN" r.full)
  triggerAction d r

end SqlTemplate.Grammar
