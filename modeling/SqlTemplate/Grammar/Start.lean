/-
Where an expression that has been read begins, for messages about it. Names, literals, calls, CASE
and queries begin at their first token. Brackets, signs and the words of the other forms have no
place of their own: an expression that opens with them begins where its first part does.
-/
import SqlTemplate.Grammar.Basic

namespace SqlTemplate.Grammar

open SqlTemplate.Grammar.Parser

/-- Takes all up to the first token that passes the test, and that token. -/
def skipPast (p : Token → Bool) : Parser Unit := fun ts =>
  .ok ((), (ts.dropWhile fun t => !p t.token).drop 1)

/-- Takes what stands before the first part of a form. -/
def skipFormHead (r : Rules) : Form → Parser Unit
  | .typed _ _ => do
    let _ ← r.dataType
  | .interval _ | .introduced _ _ | .prior => skip
  | .extract _ comma => skipPast (if comma then isSymbol "," else isKeyword "FROM")
  | .rounding _ _ | .position | .substring _ _ _ _ | .overlay _ | .trimChars | .convertUsing _ _ => skipPast (isSymbol "(")
  | .trim _ _ => do
    skipPast (isSymbol "(")
    let _ ← takeOneOf ["BOTH", "LEADING", "TRAILING"]
  | .convert _ _ _ typeFirst => do
    skipPast (isSymbol "(")
    if typeFirst then
      let _ ← r.dataType
      skip
  | .array _ => skipPast (isSymbol "[")
  | _ => pure ()

/-- Forms that begin nowhere. -/
def isPlaceless : Form → Bool
  | .struct _ | .dictionary _ | .map | .aliased _ | .matchAgainst _ _ _ => true
  | _ => false

def queryOpening (t : Token) : Bool := isSymbol "(" t || isKeyword "VALUES" t || isKeyword "ROW" t

/-- The place of a query that stands in parentheses, maybe more than one pair. -/
def queryStart : Parser (Option Location) := fun ts =>
  place (ts.dropWhile fun t => queryOpening t.token)

mutual

/-- Where the expression begins, if its tokens come next and it begins anywhere. -/
def startOf (r : Rules) : Expr → Parser (Option Location)
  | .nested e => do skip; startOf r e
  | .tuple items => do skip; startOfFirst r items
  | .unary op e => do
    if op != .factorial then skip
    startOf r e
  | .binary e _ _ | .test e _ _ | .distinctFrom e _ _ | .inList e _ _ | .inSubquery e _ _ | .between e _ _ _
  | .quantified e _ _ _ => startOf r e
  | .pattern e _ family _ _ _ => if family == .regexp || family == .rLike then return none else startOf r e
  | .cast style e _ _ => do
    if style != .doubleColon then skipPast (isSymbol "(")
    startOf r e
  | .subquery _ => queryStart
  | .exists_ _ _ => do skipPast (isSymbol "("); queryStart
  | .call callee _ _ _ => do
    if callee.braced then
      skip
      skip
    place
  | .form f args => do
    skipFormHead r f
    if isPlaceless f then return none else startOfFirst r args
  | .ident _ | .compound _ | .value _ | .case _ _ _ => place

/-- Where the first of several expressions begins; without one, the place of what comes next. -/
def startOfFirst (r : Rules) : List Expr → Parser (Option Location)
  | e :: _ => startOf r e
  | [] => place

end

end SqlTemplate.Grammar
