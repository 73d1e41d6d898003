/-
Expressions: an operand, the fields and indices reached from it, and the operators that follow, as
long as they bind more tightly than the place where the expression stands allows.
-/
import SqlTemplate.Grammar.Operand
import SqlTemplate.Grammar.Start

namespace SqlTemplate.Grammar

open SqlTemplate.Grammar.Parser

/-! ## Access chains -/

/-- One step of an access chain with its expressions. -/
structure Step where
  access : Access
  args : List Expr

def Step.field (e : Expr) : Step := ⟨.field, [e]⟩

/-- The rest of a slice after its lower bound and colon. -/
def sliceRest (r : Rules) (lower : Option Expr) : Parser Step := do
  if ← takeSymbol "]" then return ⟨.slice lower.isSome false false, lower.toList⟩
  let upper ← r.full
  if ← takeSymbol "]" then return ⟨.slice lower.isSome true false, lower.toList ++ [upper]⟩
  expectSymbol ":"
  if ← takeSymbol "]" then return ⟨.slice lower.isSome true false, lower.toList ++ [upper]⟩
  let stride ← r.full
  expectSymbol "]"
  return ⟨.slice lower.isSome true true, lower.toList ++ [upper, stride]⟩

/-- An index or a slice after its opening bracket. -/
def subscript (r : Rules) : Parser Step := do
  if ← takeSymbol ":" then sliceRest r none
  else
    let lower ← r.full
    if ← takeSymbol "]" then return ⟨.index, [lower]⟩
    expectSymbol ":"
    sliceRest r (some lower)

/-- What a chain begun by an access form goes on with. -/
def stepsOf : List Access → List Expr → List Step
  | [], _ => []
  | a :: as, es =>
    let count :=
      match a with
      | .field | .index => 1
      | .slice l u s => l.toNat + u.toNat + s.toNat
    ⟨a, es.take count⟩ :: stepsOf as (es.drop count)

/-- The steps that an expression after a period stands for. -/
def fieldSteps (e : Expr) : List Step :=
  match e with
  | .form (.access steps) (root :: rest) => .field root :: stepsOf steps rest
  | .compound parts => parts.map fun i => .field (.ident i)
  | e => [.field e]

/-- The steps of a chain, and whether it ends in a star. -/
def stepLoop (d : Dialect) (r : Rules) : Nat → Parser (List Step × Bool)
  | 0 => return ([], false)
  | n + 1 => do
    match ← peek, ← peekAt 1 with
    | some (.symbol "."), some (.symbol "*") =>
      if d == .postgresql then skip; skip; return ([], true) else return ([], false)
    | some (.symbol "."), some (.string s) =>
      skip
      skip
      let (steps, star) ← stepLoop d r n
      return (.field (.ident ⟨s, some '\x27'⟩) :: steps, star)
    | some (.symbol "."), _ =>
      skip
      let here := fieldSteps (← r.expr (Strength.period.toNat d))
      let (steps, star) ← stepLoop d r n
      return (here ++ steps, star)
    | some (.symbol "["), _ =>
      skip
      let step ← subscript r
      let (steps, star) ← stepLoop d r n
      return (step :: steps, star)
    | _, _ => return ([], false)

/-- The identifier that a step reaches, if it is nothing more. -/
def Step.ident? (s : Step) : Option Ident :=
  match s.access, s.args with
  | .field, [.ident i] => some i
  | _, _ => none

/-- The name that a root and its steps spell, if all are identifiers. -/
def chainName? (root : Expr) (steps : List Step) : Option ObjectName :=
  match root, steps.mapM Step.ident? with
  | .ident i, some is => some (i :: is)
  | _, _ => none

/-- A root and a call at the end of identifiers: a call with a qualified name. -/
def chainCall? (root : Expr) (steps : List Step) : Option Expr :=
  match steps.getLast? with
  | some ⟨.field, [.call callee parameters args clauses]⟩ =>
    (chainName? root steps.dropLast).map fun start =>
      .call { callee with name := start ++ callee.name } parameters args clauses
  | _ => none

def buildChain (root : Expr) (steps : List Step) : Expr :=
  if steps.isEmpty then root
  else
    match chainName? root steps with
    | some name => .compound name
    | none =>
      match chainCall? root steps with
      | some e => e
      | none => .form (.access (steps.map Step.access)) (root :: steps.flatMap Step.args)

/-- The place of the last token before what is left. -/
def lastBefore (start rest : List Lexeme) : Option Location :=
  start[start.length - rest.length - 1]?.map Lexeme.location

/-- A chain with the mark of an outer join after it, which only a column may have; `place` is where the chain ends. -/
def outerJoined (root : Expr) (steps : List Step) (place : Option Location) : Parser Expr := do
  match chainName? root steps with
  | some [i] => return .form .outerJoined [.ident i]
  | some name => return .form .outerJoined [.compound name]
  | none => failAt place

/-- The expression that a root and its steps make, where `start` holds the tokens from the root on. A mark of an
outer join after the last field belongs to the whole chain, whose root then has to be a name. -/
def chain (r : Rules) (start : List Lexeme) (root : Expr) (steps : List Step) : Parser Expr := do
  match steps with
  | [⟨.field, [.form .outerJoined [column]]⟩] =>
    match root, column with
    | .ident i, .ident last => return .form .outerJoined [.compound [i, last]]
    | .ident i, .compound rest => return .form .outerJoined [.compound (i :: rest)]
    | _, _ =>
      set start
      failAt (← startOf r root)
  | _ => return buildChain root steps

/-- An operand with all that is reached from it. -/
def primary (d : Dialect) (r : Rules) : Parser Expr := do
  let start ← tokens
  let root ← operand d r
  let (steps, star) ← stepLoop d r (← remaining)
  if star then
    match chainName? root steps with
    | some name => return .form (.wildcard (some name)) []
    | none => unexpected
  else if ← outerMarkAhead d then
    let place := lastBefore start (← tokens)
    skip
    skip
    skip
    outerJoined root steps place
  else chain r start root steps

/-! ## Operators -/

/-- The binary operator that a symbol is. -/
def symbolOperator? (d : Dialect) (s : String) : Option BinaryOp :=
  let inPostgresql (op : BinaryOp) := if d == .postgresql then some op else none
  let shifts := d == .postgresql || d == .generic
  match s with
  | "<=>" => some .spaceship
  | "==" | "=" => some .eq
  | "<>" => some .notEq
  | ">" => some .gt
  | ">=" => some .gtEq
  | "<" => some .lt
  | "<=" => some .ltEq
  | ":=" | "+" | "-" | "*" | "%" | "||" | "|" | "^" | "&" | "/" => some (.other s)
  | "//" => if d == .generic then some (.other s) else none
  | "<<" | ">>" | "&&" | "^@" => if shifts then some (.other s) else none
  | "~" | "~*" | "!~" | "!~*" | "~~" | "~~*" | "!~~" | "!~~*" => some (.other s)
  | "->" | "->>" | "#>" | "#>>" | "@>" | "<@" | "#-" | "@?" | "@@" | "?" | "?&" | "?|" => some (.other s)
  | "@" | "#" | "##" | "&<" | "&>" | "<->" | "&<|" | "|&>" | "<<|" | "<^" | "|>>" | ">^" | "?#" | "?-" | "?-|" | "?||" | "~=" =>
    inPostgresql (.other s)
  | _ => none

def keywordOperator? (k : Option String) : Option BinaryOp :=
  match k with
  | some "AND" => some .and
  | some "OR" => some .or
  | some "XOR" => some (.other "XOR")
  | some "OVERLAPS" => some (.other "OVERLAPS")
  | _ => none

def tokenOperator? (d : Dialect) (t : Token) : Option BinaryOp :=
  match t with
  | .symbol s => symbolOperator? d s
  | .customOperator s => some (.other s)
  | .word w => keywordOperator? w.keyword
  | _ => none

/-- Operators that may stand before ANY, SOME or ALL. -/
def comparesAny (op : BinaryOp) : Bool :=
  match op with
  | .eq | .notEq | .lt | .gt | .ltEq | .gtEq => true
  | .other s => ["~", "~*", "!~", "!~*", "~~", "~~*", "!~~", "!~~*"].contains s
  | _ => false

def quantifierOf (k : String) : Quantifier :=
  match k with
  | "ALL" => .all
  | "ANY" => .any
  | _ => .some_

/-- The right side of a quantified comparison, from its parenthesis on. -/
def quantifiedRight (r : Rules) (strength : Nat) : Parser Expr := do
  match ← peek, ← peekKeywordAt 1 with
  | some (.symbol "("), some "SELECT" => r.expr strength
  | some (.symbol "("), some "WITH" => r.expr strength
  | _, _ => parenthesized (r.expr strength)

/-- What follows a binary operator that stood at `start`. -/
def binaryRest (r : Rules) (left : Expr) (op : BinaryOp) (strength : Nat) (start : Option Location) : Parser Expr := do
  match ← takeOneOf ["ANY", "ALL", "SOME"] with
  | none => return .binary left op (← r.expr strength)
  | some k =>
    let right ← quantifiedRight r strength
    if comparesAny op then return .quantified left op (quantifierOf k) right else failAt start

/-- The name of an operator written as `OPERATOR(schema.op)`. -/
def operatorName : Nat → Parser String
  | 0 => return ""
  | n + 1 => do
    let part ←
      match ← peek with
      | some (.symbol s) => skip; pure s
      | some (.customOperator s) => skip; pure s
      | some (.word w) => skip; pure w.toIdent.print
      | _ => unexpected
    if ← takeSymbol "." then return part ++ "." ++ (← operatorName n) else return part

/-! ## Operators that are keywords -/

/-- A test for Unicode normal form; what it takes is not given back if it does not apply. -/
def normalizedTest (e : Expr) : Parser Expr := do
  let negated ← takeKeyword "NOT"
  let form ← takeOneOf ["NFC", "NFD", "NFKC", "NFKD"]
  if ← takeKeyword "NORMALIZED" then
    return .form (.normalized negated (match form with | some f => f ++ " " | none => "")) [e]
  else unexpected

def isRest (r : Rules) (e : Expr) : Parser Expr := do
  if ← takeKeyword "NULL" then return .test e false .null
  else if ← takeKeywords ["NOT", "NULL"] then return .test e true .null
  else if ← takeKeyword "TRUE" then return .test e false .isTrue
  else if ← takeKeywords ["NOT", "TRUE"] then return .test e true .isTrue
  else if ← takeKeyword "FALSE" then return .test e false .isFalse
  else if ← takeKeywords ["NOT", "FALSE"] then return .test e true .isFalse
  else if ← takeKeyword "UNKNOWN" then return .test e false .unknown
  else if ← takeKeywords ["NOT", "UNKNOWN"] then return .test e true .unknown
  else if ← takeKeywords ["DISTINCT", "FROM"] then return .distinctFrom e false (← r.full)
  else if ← takeKeywords ["NOT", "DISTINCT", "FROM"] then return .distinctFrom e true (← r.full)
  else normalizedTest e

def inRest (d : Dialect) (r : Rules) (e : Expr) (negated : Bool) : Parser Expr := do
  if ← takeKeyword "UNNEST" then
    parenthesized do return .form (.inUnnest negated) [e, ← r.full]
  else
    parenthesized do
      match ← attempt r.query with
      | some q => return .inSubquery e negated q
      | none =>
        let items ← if d == .sqlite then commaListUntil ")" r.full else commaList r.full
        return .inList e negated items

def betweenRest (d : Dialect) (r : Rules) (e : Expr) (negated : Bool) : Parser Expr := do
  let low ← r.expr (Strength.between.toNat d)
  expectKeyword "AND"
  let high ← r.expr (Strength.between.toNat d)
  return .between e negated low high

def patternRest (d : Dialect) (r : Rules) (e : Expr) (negated : Bool) (family : PatternFamily) : Parser Expr := do
  let any ← if family == .like || family == .iLike then takeKeyword "ANY" else pure false
  let p ← r.expr (Strength.like.toNat d)
  if family == .regexp || family == .rLike then return .pattern e negated family any p none
  else return .pattern e negated family any p (← afterKeyword "ESCAPE" (value d))

/-- An operator that NOT may precede. -/
def negatableRest (d : Dialect) (r : Rules) (e : Expr) : Parser Expr := do
  let negated ← takeKeyword "NOT"
  if ← takeKeyword "REGEXP" then patternRest d r e negated .regexp
  else if ← takeKeyword "RLIKE" then patternRest d r e negated .rLike
  else if ← takeKeyword "IN" then inRest d r e negated
  else if ← takeKeyword "BETWEEN" then betweenRest d r e negated
  else if ← takeKeyword "LIKE" then patternRest d r e negated .like
  else if ← takeKeyword "ILIKE" then patternRest d r e negated .iLike
  else if ← takeKeywords ["SIMILAR", "TO"] then patternRest d r e negated .similarTo
  else unexpected

/-- What a keyword that is no binary operator does with the expression before it. -/
def keywordRest (d : Dialect) (r : Rules) (e : Expr) (k : String) (strength : Nat) : Parser Expr := do
  match k with
  | "IS" => skip; isRest r e
  | "AT" =>
    skip
    expectKeywords ["TIME", "ZONE"]
    return .form .atTimeZone [e, ← r.expr strength]
  | "NOT" | "IN" | "BETWEEN" | "LIKE" | "ILIKE" | "SIMILAR" | "REGEXP" | "RLIKE" => negatableRest d r e
  | "MEMBER" =>
    skip
    expectKeyword "OF"
    parenthesized do return .form .memberOf [e, ← r.full]
  | "OPERATOR" =>
    if d == .postgresql || d == .generic then
      let start ← place
      skip
      let name ← parenthesized (do operatorName (← remaining))
      binaryRest r e (.other ("OPERATOR(" ++ name ++ ")")) strength start
    else unexpected
  | _ => unexpected

/-- Keywords that a dialect reads as an operator with everything to the right of it on its right side. -/
def greedyOperator? (d : Dialect) (k : Option String) : Option String :=
  match d, k with
  | .mysql, some "DIV" => some "DIV"
  | .sqlite, some "REGEXP" => some "REGEXP"
  | .sqlite, some "MATCH" => some "MATCH"
  | _, _ => none

/-- The expression that `left` and the operator after it make; the operator binds with `strength`. -/
def infixRest (d : Dialect) (r : Rules) (left : Expr) (strength : Nat) : Parser Expr := do
  match greedyOperator? d (← peekKeyword) with
  | some op => skip; return .binary left (.other op) (← r.full)
  | none =>
    let start ← place
    match ← peek with
    | none => unexpected
    | some t =>
      match tokenOperator? d t with
      | some op => skip; binaryRest r left op strength start
      | none =>
        match t with
        | .word w =>
          match w.keyword with
          | some k => keywordRest d r left k strength
          | none => unexpected
        | .symbol "::" => skip; return .cast .doubleColon left (← r.dataType) []
        | .symbol "!" => if d == .postgresql then skip; return .unary .factorial left else unexpected
        | _ => unexpected

/-- Operators, as long as they bind more tightly than `floor`; a period is none of them. -/
def infixLoop (d : Dialect) (r : Rules) (floor : Nat) (left : Expr) : Nat → Parser Expr
  | 0 => return left
  | n + 1 => do
    let strength ← nextStrength d
    if strength ≤ floor then return left
    else if ← nextIsSymbol "." then return left
    else
      let e ← infixRest d r left strength
      infixLoop d r floor e n

/-- An expression whose operators bind more tightly than `floor`. -/
def expr (d : Dialect) (r : Rules) (floor : Nat) : Parser Expr := do
  let e ← primary d r
  infixLoop d r floor e (← remaining)

end SqlTemplate.Grammar
