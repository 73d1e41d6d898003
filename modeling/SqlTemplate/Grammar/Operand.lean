/-
Operands: what an expression begins with. A literal, a name, a call, a parenthesis, a sign before
another operand, or one of the forms that a keyword opens, such as CASE or CAST. A keyword whose
form does not fit is read as a plain name, unless it can never be one.
-/
import SqlTemplate.Grammar.Call
import SqlTemplate.Grammar.Precedence

namespace SqlTemplate.Grammar

open SqlTemplate.Grammar.Parser

/-! ## Forms opened by a keyword -/

/-- A keyword that may have arguments, such as CURRENT_TIMESTAMP. -/
def timeCall (d : Dialect) (r : Rules) (w : Word) : Parser Expr := do
  let callee : Callee := ⟨[w.toIdent], false⟩
  if ← takeSymbol "(" then return .call callee .absent (← argList d r) []
  else return .call callee .absent .absent []

def branchLoop (r : Rules) : Nat → Parser (List Branch)
  | 0 => return []
  | n + 1 => do
    let condition ← r.full
    expectKeyword "THEN"
    let b : Branch := ⟨condition, ← r.full⟩
    if ← takeKeyword "WHEN" then return b :: (← branchLoop r n) else return [b]

def caseForm (r : Rules) : Parser Expr := do
  let operand ←
    if ← takeKeyword "WHEN" then pure none
    else
      let e ← r.full
      expectKeyword "WHEN"
      pure (some e)
  let branches ← branchLoop r (← remaining)
  let otherwise ← afterKeyword "ELSE" r.full
  expectKeyword "END"
  return .case operand branches otherwise

def castFormat (d : Dialect) : Parser CastFormat := do
  if ← takeKeyword "FORMAT" then
    let pattern ← value d
    return pattern :: (← afterKeywords ["AT", "TIME", "ZONE"] (value d)).toList
  else return []

def castForm (d : Dialect) (r : Rules) (style : CastStyle) : Parser Expr :=
  parenthesized do
    let e ← r.full
    expectKeyword "AS"
    let t ← r.dataType
    return .cast style e t (← castFormat d)

def existsForm (r : Rules) (negated : Bool) : Parser Expr :=
  parenthesized do return .exists_ negated (← r.query)

def extractForm (d : Dialect) (r : Rules) : Parser Expr :=
  parenthesized do
    let field ← timeField d
    if ← takeKeyword "FROM" then return .form (.extract field false) [← r.full]
    else if (← takeSymbol ",") && d == .generic then return .form (.extract field true) [← r.full]
    else failAt none

/-- CEIL and FLOOR, to a unit of time or to a number of places. -/
def roundingForm (d : Dialect) (r : Rules) (name : String) : Parser Expr :=
  parenthesized do
    let e ← r.full
    if ← takeKeyword "TO" then return .form (.rounding name (" TO " ++ (← timeField d))) [e]
    else if ← takeSymbol "," then
      match ← value d with
      | .number text long => return .form (.rounding name (", " ++ (Value.number text long).print)) [e]
      | _ => failAt none
    else return .form (.rounding name "") [e]

def positionForm (d : Dialect) (r : Rules) (w : Word) : Parser Expr := do
  let form ← attempt do
    parenthesized do
      let e ← r.expr (Strength.between.toNat d)
      expectKeyword "IN"
      return .form .position [e, ← r.full]
  match form with
  | some e => return e
  | none => plainCall d r [w.toIdent]

def substringForm (r : Rules) (name : String) : Parser Expr :=
  parenthesized do
    let e ← r.full
    let commas ← takeSymbol ","
    let start ← if commas then pure (some (← r.full)) else afterKeyword "FROM" r.full
    let length ←
      if ← takeKeyword "FOR" then pure (some (← r.full))
      else if ← takeSymbol "," then pure (some (← r.full))
      else pure none
    return .form (.substring name commas start.isSome length.isSome) (e :: start.toList ++ length.toList)

def overlayForm (r : Rules) : Parser Expr :=
  parenthesized do
    let e ← r.full
    expectKeyword "PLACING"
    let what ← r.full
    expectKeyword "FROM"
    let start ← r.full
    let length ← afterKeyword "FOR" r.full
    return .form (.overlay length.isSome) ([e, what, start] ++ length.toList)

def trimForm (d : Dialect) (r : Rules) : Parser Expr :=
  parenthesized do
    let side := match ← takeOneOf ["BOTH", "LEADING", "TRAILING"] with | some k => k ++ " " | none => ""
    let e ← r.full
    if ← takeKeyword "FROM" then return .form (.trim side true) [e, ← r.full]
    else if (← takeSymbol ",") && d == .generic then return .form .trimChars (e :: (← commaList r.full))
    else return .form (.trim side false) [e]

/-- Items of an array after its opening bracket. -/
def arrayForm (r : Rules) (named : Bool) : Parser Expr := do
  let items ← commaListUntil "]" r.full
  expectSymbol "]"
  return .form (.array named) items

def arrayQuery (r : Rules) (w : Word) : Parser Expr :=
  parenthesized do return .call ⟨[w.toIdent], false⟩ .absent (.subquery (← r.query)) []

def notForm (d : Dialect) (r : Rules) : Parser Expr := do
  if ← takeKeyword "EXISTS" then existsForm r true
  else return .unary .not (← r.expr (Strength.unaryNot.toNat d))

/-- How a full-text search reads its pattern. -/
def searchModifier : Parser String := do
  let expansion := ["WITH", "QUERY", "EXPANSION"]
  if ← takeKeywords ["IN", "NATURAL", "LANGUAGE", "MODE"] then
    if ← takeKeywords expansion then return " IN NATURAL LANGUAGE MODE WITH QUERY EXPANSION"
    else return " IN NATURAL LANGUAGE MODE"
  else if ← takeKeywords ["IN", "BOOLEAN", "MODE"] then return " IN BOOLEAN MODE"
  else if ← takeKeywords expansion then return " WITH QUERY EXPANSION"
  else return ""

def matchForm (d : Dialect) : Parser Expr := do
  let columns ← nameList d
  expectKeyword "AGAINST"
  parenthesized do
    let v ← value d
    return .form (.matchAgainst columns v (← searchModifier)) []

def convertForm (d : Dialect) (r : Rules) (name : String) : Parser Expr :=
  parenthesized do
    if d == .mssql then
      let t ← r.dataType
      expectSymbol ","
      let e ← r.full
      let styles ← if ← takeSymbol "," then commaList r.full else pure []
      return .form (.convert name t none true) (e :: styles)
    else
      let e ← r.full
      if ← takeKeyword "USING" then return .form (.convertUsing name (← objectName d)) [e]
      expectSymbol ","
      let t ← r.dataType
      let charset ← afterKeywords ["CHARACTER", "SET"] (objectName d)
      return .form (.convert name t charset false) [e]

/-- A value of a structure; where the fields are typed it has no name. -/
def structItem (r : Rules) (typed : Bool) : Parser Expr := do
  let e ← r.full
  if ← nextIsKeyword "AS" then
    if typed then unexpected
    skip
    return .form (.aliased (← ident)) [e]
  else return e

def structForm (r : Rules) : Parser Expr := do
  let (fields, closes) ← structFields r
  if closes then unexpected
  parenthesized do return .form (.struct fields) (← commaList (structItem r !fields.isEmpty))

/-- A key and its value, both expressions. -/
def mapEntry (r : Rules) : Parser (List Expr) := do
  let key ← r.full
  expectSymbol ":"
  return [key, ← r.full]

def mapForm (r : Rules) : Parser Expr := do
  expectSymbol "\x7b"
  let entries ← commaListUntil "\x7d" (mapEntry r)
  expectSymbol "\x7d"
  return .form .map entries.flatten

/-- A name and its value. -/
def dictionaryEntry (r : Rules) : Parser (Ident × Expr) := do
  let key ← ident
  expectSymbol ":"
  return (key, ← r.full)

def dictionaryForm (r : Rules) : Parser Expr := do
  expectSymbol "\x7b"
  let entries ← commaListUntil "\x7d" (dictionaryEntry r)
  expectSymbol "\x7d"
  return .form (.dictionary (entries.map Prod.fst)) (entries.map Prod.snd)

/-- A call after the word that opens one in braces. -/
def bracedCall (d : Dialect) (r : Rules) : Parser Expr := do
  expectKeyword "FN"
  let name ← objectName d
  call d r ⟨name, true⟩

/-- What an opening brace leads to: a call in braces or, in one dialect, a dictionary. -/
def braceForm (d : Dialect) (r : Rules) : Parser Expr := fun ts =>
  match attempt (bracedCall d r) (ts.drop 1) with
  | .ok (some e, rest) => (do expectSymbol "\x7d"; return e : Parser Expr) rest
  | .ok (none, _) => if d == .generic then dictionaryForm r ts else unexpected ts
  | .error e => .error e

/-- The types of geometric values, which may stand before a literal. -/
def geometricTypes : List String := ["POINT", "LINE", "LSEG", "BOX", "PATH", "POLYGON", "CIRCLE"]

/-- The form that a keyword opens, if it opens one in this dialect. -/
def keywordForm? (d : Dialect) (r : Rules) (w : Word) (next : Option Token) : Option (Parser Expr) :=
  let opens (symbol : String) := next.any (isSymbol symbol)
  let searches := d == .mysql || d == .generic
  let userWords := d == .postgresql || d == .generic
  match w.keyword with
  | some "TRUE" => if hasBooleans d then some (pure (.value (.boolean true))) else none
  | some "FALSE" => if hasBooleans d then some (pure (.value (.boolean false))) else none
  | some "NULL" => some (pure (.value .null))
  | some "CURRENT_CATALOG" | some "CURRENT_USER" | some "SESSION_USER" | some "USER" =>
    if userWords then some (pure (.call ⟨[w.toIdent], false⟩ .absent .absent [])) else none
  | some "CURRENT_TIMESTAMP" | some "CURRENT_TIME" | some "CURRENT_DATE" | some "LOCALTIME" | some "LOCALTIMESTAMP" =>
    some (timeCall d r w)
  | some "CASE" => some (caseForm r)
  | some "CONVERT" => some (convertForm d r "CONVERT")
  | some "TRY_CONVERT" => if d == .mssql || d == .generic then some (convertForm d r "TRY_CONVERT") else none
  | some "CAST" => some (castForm d r .cast)
  | some "TRY_CAST" => some (castForm d r .tryCast)
  | some "SAFE_CAST" => some (castForm d r .safeCast)
  | some "EXISTS" => some (existsForm r false)
  | some "EXTRACT" => some (extractForm d r)
  | some "CEIL" => some (roundingForm d r "CEIL")
  | some "FLOOR" => some (roundingForm d r "FLOOR")
  | some "POSITION" => if opens "(" then some (positionForm d r w) else none
  | some "SUBSTR" => some (substringForm r "SUBSTR")
  | some "SUBSTRING" => some (substringForm r "SUBSTRING")
  | some "OVERLAY" => some (overlayForm r)
  | some "TRIM" => some (trimForm d r)
  | some "INTERVAL" => some (interval d r)
  | some "ARRAY" =>
    if opens "[" then some (do skip; arrayForm r true)
    else if opens "(" then some (arrayQuery r w)
    else none
  | some "NOT" => some (notForm d r)
  | some "MATCH" => if searches then some (matchForm d) else none
  | some "STRUCT" => if d == .generic then some (structForm r) else none
  | some "MAP" => if d == .generic && opens "\x7b" then some (mapForm r) else none
  | some "PRIOR" =>
    if r.hasPrior then some (do return .form .prior [← r.expr (Strength.additive.toNat d)]) else none
  | some k =>
    if d == .postgresql && geometricTypes.contains k then
      some (do return .form (.typed ⟨Text.lower k, .builtin⟩ (← value d)) [])
    else none
  | none => none

/-! ## Words -/

/-- Dialects in which `(+)` after a column marks the outer side of a join. -/
def hasOuterMark (d : Dialect) : Bool := d == .mssql

/-- Whether the mark of an outer join comes next. -/
def outerMarkAhead (d : Dialect) : Parser Bool := do
  match ← peek, ← peekAt 1, ← peekAt 2 with
  | some (.symbol "("), some (.symbol "+"), some (.symbol ")") => return hasOuterMark d
  | _, _, _ => return false

/-- A word that opens no form: a call, a string with its character set, or a name. -/
def plainWord (d : Dialect) (r : Rules) (w : Word) : Parser Expr := do
  let introduces := Text.startsWith w.text "_"
  let marked ← outerMarkAhead d
  match ← peek with
  | some (.symbol "(") => if marked then return .ident w.toIdent else plainCall d r [w.toIdent]
  | some (.string s) => if introduces then skip; return .form (.introduced w.toIdent (.string s)) [] else return .ident w.toIdent
  | some (.doubleQuoted s) =>
    if introduces then skip; return .form (.introduced w.toIdent (.doubleQuoted s)) [] else return .ident w.toIdent
  | some (.hex s) => if introduces then skip; return .form (.introduced w.toIdent (.hex s)) [] else return .ident w.toIdent
  | _ => return .ident w.toIdent

/-- The first rule if it applies, else the second; if neither does, the first one's failure. Says which it was. -/
def orElse {α : Type} (first second : Parser α) : Parser (α × Bool) := fun ts =>
  match first ts with
  | .ok (a, rest) => .ok ((a, true), rest)
  | .error e =>
    match second ts with
    | .ok (a, rest) => .ok ((a, false), rest)
    | .error _ => .error e

def isReserved (w : Word) : Bool := w.keyword.any Keyword.notIdentifier.contains

/-- An operand that begins with the word `w`, which is already taken, and whether a collation may follow it: none
may if a form that the word opens did not fit. -/
def wordOperand (d : Dialect) (r : Rules) (w : Word) : Parser (Expr × Bool) := do
  match keywordForm? d r w (← peek) with
  | none => return (← plainWord d r w, true)
  | some form => if isReserved w then return (← form, true) else orElse form (plainWord d r w)

/-! ## Operands -/

/-- A literal with its type before it, as in `DATE '2020-01-01'`, or an interval. -/
def typedLiteral (d : Dialect) (r : Rules) : Parser Expr := do
  let t ← r.dataType
  match t.kind with
  | .interval => interval d r
  | .custom => unexpected
  | .builtin => return .form (.typed t (← value d)) []

/-- A parenthesis after its opening symbol: a query, a nested expression, or a row. -/
def parenthesis (r : Rules) : Parser Expr := do
  let e ←
    match ← peekKeyword with
    | some "SELECT" | some "WITH" => pure (.subquery (← r.query))
    | _ =>
      match ← commaList r.full with
      | [e] => pure (.nested e)
      | items => pure (.tuple items)
  expectSymbol ")"
  return e

/-- Signs before an operand, with the strength of what they apply to. -/
def sign? (d : Dialect) (s : String) : Option (String × Strength) :=
  match s with
  | "+" | "-" => some (s, .multiplicative)
  | "~" | "!!" | "|/" | "||/" | "@" => if d == .postgresql then some (s, .additive) else none
  | "#" | "@-@" | "@@" | "?-" | "?|" => if d == .postgresql then some (s ++ " ", .additive) else none
  | _ => none

def symbolOperand (d : Dialect) (r : Rules) (s : String) : Parser Expr := do
  match sign? d s with
  | some (text, strength) => skip; return .unary (.sign text) (← r.expr (strength.toNat d))
  | none =>
    match s with
    | "[" => skip; arrayForm r false
    | "(" => skip; parenthesis r
    | "\x7b" => braceForm d r
    | ":" | "@" => return .value (← value d)
    | _ => unexpected

/-- A literal of a kind that the grammar takes for an operand. -/
def literalOperand (d : Dialect) : Parser Expr := do return .value (← value d)

/-- An operand without a type before it, and whether a collation may follow. -/
def untypedOperand (d : Dialect) (r : Rules) : Parser (Expr × Bool) := do
  match ← peek with
  | some (.word w) => skip; wordOperand d r w
  | some (.symbol s) => return (← symbolOperand d r s, true)
  | some (.customOperator _) | some (.other _) | some .blank | none => unexpected
  | some _ => return (← literalOperand d, true)

/-- An operand and, if one follows, its collation. -/
def operand (d : Dialect) (r : Rules) : Parser Expr := do
  match ← attempt (typedLiteral d r) with
  | some e => return e
  | none =>
    let (e, mayCollate) ← untypedOperand d r
    if ← takeWhere mayCollate (takeKeyword "COLLATE") then return .form (.collate (← objectName d)) [e]
    else return e

end SqlTemplate.Grammar
