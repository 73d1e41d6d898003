/-
Classification: a predicate becomes a condition tree. AND, OR and NOT make groups, and a chain of
one connective without parentheses is one group; every other predicate is a leaf, whose operand
count has to fit its operator.
-/
import SqlTemplate.Condition.Node
import SqlTemplate.Tree.Walk

namespace SqlTemplate.Condition

/-! ## Operators of predicates -/

def connective? : BinaryOp → Option Connective
  | .and => some .and
  | .or => some .or
  | _ => none

def comparison? : BinaryOp → Option Operator
  | .eq => some .eq
  | .notEq => some .notEq
  | .lt => some .lt
  | .gt => some .gt
  | .ltEq => some .ltEq
  | .gtEq => some .gtEq
  | .spaceship => some .nullSafeEq
  | _ => none

def patternOperator (family : PatternFamily) (negated : Bool) : Operator :=
  match family, negated with
  | .like, false => .like
  | .like, true => .notLike
  | .iLike, false => .iLike
  | .iLike, true => .notILike
  | .similarTo, false => .similarTo
  | .similarTo, true => .notSimilarTo
  | .regexp, false => .regexp
  | .regexp, true => .notRegexp
  | .rLike, false => .regexp
  | .rLike, true => .notRegexp

/-- The operator of a truth test; a test for UNKNOWN is no condition. -/
def testOperator? (truth : TruthTest) (negated : Bool) : Option Operator :=
  match truth, negated with
  | .null, false => some .isNull
  | .null, true => some .isNotNull
  | .isTrue, false => some .isTrue
  | .isTrue, true => some .isNotTrue
  | .isFalse, false => some .isFalse
  | .isFalse, true => some .isNotFalse
  | .unknown, _ => none

/-! ## Nodes -/

/-- Values on the right of an operator whose left side has `width`; a query supplies one full row. -/
def suppliedValues (e : Expr) (width : Nat) : Nat :=
  match e with
  | .subquery _ => width
  | .nested (.subquery _) => width
  | e => e.width

def unsupported (e : Expr) : Error :=
  .unsupported ("predicate `" ++ e.print ++ "` is not a recognized condition")

/-- A leaf for `e`, if `found` operand values fit the operator and the width of its left side. -/
def leaf (e : Expr) (p : Position) (op : Operator) (width found : Nat) : Except Error Node := do
  op.check width found
  return .leaf op ⟨p, e.distinctColumns, found, e.placeholderCount, e.print⟩

def group (e : Expr) (p : Position) (c : Connective) (children : List Node) : Node :=
  .group c
    { position := p
      columns := Text.distinct (children.flatMap (·.summary.columns))
      operands := children.foldl (fun n c => n + c.summary.operands) 0
      parameters := children.foldl (fun n c => n + c.summary.parameters) 0
      sql := e.print }
    children

/-- The nodes that an operand contributes to a chain: its own children if it continues the chain. -/
def spread (op : BinaryOp) (operand : Expr) (n : Node) : List Node :=
  match operand with
  | .binary _ op' _ => if op' == op then n.children else [n]
  | _ => [n]

/-- The condition tree of a predicate. A bare column is read as a test for truth. -/
def classify (p : Position) : Expr → Except Error Node
  | .nested e => classify p e
  | .unary .not e => do
    let child ← classify p e
    return group (.unary .not e) p .not [child]
  | .binary l op r =>
    match connective? op with
    | some c => do
      let left ← classify p l
      let right ← classify p r
      return group (.binary l op r) p c (spread op l left ++ spread op r right)
    | none =>
      match comparison? op with
      | some o => leaf (.binary l op r) p o l.width (suppliedValues r l.width)
      | none => .error (unsupported (.binary l op r))
  | .pattern e negated family any pat escape =>
    leaf (.pattern e negated family any pat escape) p (patternOperator family negated) e.width pat.width
  | .distinctFrom l negated r =>
    leaf (.distinctFrom l negated r) p (if negated then .isNotDistinctFrom else .isDistinctFrom) l.width
      (suppliedValues r l.width)
  | .inList e negated items =>
    leaf (.inList e negated items) p (if negated then .notIn else .in_) e.width (items.map Expr.width).sum
  | .inSubquery e negated q =>
    leaf (.inSubquery e negated q) p (if negated then .notIn else .in_) e.width e.width
  | .between e negated low high =>
    leaf (.between e negated low high) p (if negated then .notBetween else .between) e.width (low.width + high.width)
  | .test e negated truth =>
    match testOperator? truth negated with
    | some o => leaf (.test e negated truth) p o e.width 0
    | none => .error (unsupported (.test e negated truth))
  | .ident id => leaf (.ident id) p .isTrue 1 0
  | .compound parts => leaf (.compound parts) p .isTrue 1 0
  | .exists_ negated q => leaf (.exists_ negated q) p (if negated then .notExists else .exists_) 1 0
  | e => .error (unsupported e)

/-- `column = value`, as an inserted row or an assignment pairs them. -/
def pairing (columns : List String) (width : Nat) (v : Expr) (p : Position) : Except Error Node := do
  let operands := suppliedValues v width
  Operator.eq.check width operands
  let target :=
    match columns with
    | [c] => c
    | cs => "(" ++ Text.commas cs ++ ")"
  return .leaf .eq ⟨p, columns, operands, v.placeholderCount, target ++ " = " ++ v.print⟩

end SqlTemplate.Condition
