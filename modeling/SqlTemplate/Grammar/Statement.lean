/-
Statements, and the grammar as a whole: the rules of every level tied together, and the readers of
a text that holds statements or one expression.
-/
import SqlTemplate.Grammar.Utility
import SqlTemplate.Token.Lexer

namespace SqlTemplate

namespace Grammar

open SqlTemplate.Grammar.Parser

def insertStatement (d : Dialect) (r : Rules) (verb : String) : Parser Statement := do
  if ← directoryAhead d then
    directoryInsert d r
    return .other
  else return .insert (← insert d r verb)

/-- REPLACE is a statement of some dialects, and of another an INSERT that says so. -/
def replace (d : Dialect) (r : Rules) : Parser Statement := do
  match d with
  | .sqlite => insertStatement d r "INSERT"
  | .mysql | .generic => skip; insertStatement d r "REPLACE"
  | _ => skip; unexpected

def statement (d : Dialect) (r : Rules) : Parser Statement := do
  if ← takeWhere (d == .mysql) (takeKeywords ["LOCK", "TABLES"]) then
    discard (commaList tableLock)
    return .other
  if ← takeWhere (d == .mysql) (takeKeywords ["UNLOCK", "TABLES"]) then return .other
  match ← peekKeyword with
  | some "SELECT" | some "WITH" | some "VALUES" | some "FROM" => return .query (← r.query)
  | some "INSERT" => skip; insertStatement d r "INSERT"
  | some "REPLACE" => replace d r
  | some "UPDATE" => skip; return .update (← update d r)
  | some "DELETE" => skip; return .delete (← delete d r)
  | some k =>
    match utility? d r k with
    | some rest => skip; rest; return .other
    | none => unexpected
  | none => if ← nextIsSymbol "(" then return .query (← r.query) else unexpected

/-- The rules with `n` levels below them; with `prior`, the ones for the relationships of rows. -/
def rules (d : Dialect) (prior : Bool) : Nat → Rules
  | 0 => .exhausted
  | n + 1 =>
    let r := rules d prior n
    { hasPrior := prior
      expr := expr d r
      operand := operand d r
      openType := openType d r
      query := query d r
      tableTree := tableTree d r
      statement := statement d r
      relationships := fun ts => commaList ((rules d true n).expr 0) ts }

/-- How deep a statement may nest. -/
def depth : Nat := 50

/-- Statements with semicolons between them; empty ones count for nothing, and the word END ends the list. -/
def statementLoop (r : Rules) (separated : Bool) : Nat → Parser (List Statement)
  | 0 => return []
  | n + 1 => do
    if ← takeSymbol ";" then statementLoop r true n
    else if (← peek).isNone then return []
    else if !separated then
      if ← nextIsKeyword "END" then return [] else unexpected
    else
      let s ← r.statement
      return s :: (← statementLoop r false n)

def statements (d : Dialect) : Parser (List Statement) := do
  statementLoop (rules d false depth) true ((← remaining) + 1)

end Grammar

/-- The error for a text that the grammar refuses. -/
def Grammar.Failure.toError (f : Grammar.Failure) : Error :=
  match f with
  | .unexpected (some l) => .ofMessage ("sql parser error: unexpected token" ++ l.suffix)
  | .unexpected none => .ofMessage "sql parser error: unexpected end of input"
  | .tooDeep => .ofMessage "sql parser error: recursion limit exceeded"

/-- The tokens of a text that are no blanks. -/
def solidTokens (d : Dialect) (text : String) : Except Error (List Lexeme) := do
  match Lexer.tokenize d text with
  | .ok ts => return ts.filter fun t => !t.token.isBlank
  | .error (.parse message l) => throw (.parse ("sql parser error: " ++ message) l)
  | .error e => throw e

/-- The statements of a text. -/
def parseStatements (d : Dialect) (text : String) : Except Error (List Statement) := do
  match Grammar.statements d (← solidTokens d text) with
  | .ok (ss, _) => return ss
  | .error f => throw f.toError

/-- What a text is that should hold one expression: the expression, and whether more text follows. -/
def parseExpr (d : Dialect) (text : String) : Except Error (Expr × Bool) := do
  match (Grammar.rules d false Grammar.depth).expr 0 (← solidTokens d text) with
  | .ok (e, rest) => return (e, !rest.isEmpty)
  | .error f => throw f.toError

end SqlTemplate
