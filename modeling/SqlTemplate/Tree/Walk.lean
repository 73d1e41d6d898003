/-
Walks over an expression: its operands, the queries that stand directly in it, the columns it
refers to and the placeholders it binds. No walk enters a query.
-/
import SqlTemplate.Tree.Print

namespace SqlTemplate

/-- The expression that an argument holds; a star holds none. -/
def Arg.expr? : Arg → Option Expr
  | .expr e => some e
  | .named _ _ e => some e
  | .star _ => none
  | .namedStar _ _ _ => none

namespace Expr

/-! ## The expression itself -/

/-- The column that an expression is, as written; parentheses and casts around it do not matter. -/
def columnReference? : Expr → Option String
  | .ident id => some id.print
  | .compound parts => some (ObjectName.print parts)
  | .nested e => columnReference? e
  | .cast _ e _ _ => columnReference? e
  | _ => none

/-- The column that an expression is, with nothing around it. -/
def plainColumn? : Expr → Option String
  | .ident id => some id.print
  | .compound parts => some (ObjectName.print parts)
  | _ => none

def isPlaceholder : Expr → Bool
  | .value (.placeholder _) => true
  | _ => false

/-- How many values an operand supplies: as many as a row has items, else one. -/
def width : Expr → Nat
  | .tuple items => items.length
  | .nested e => width e
  | _ => 1

/-! ## Operands -/

/-- The operands of an expression in textual order. -/
def children : Expr → List Expr
  | .binary l _ r => [l, r]
  | .distinctFrom l _ r => [l, r]
  | .quantified l _ _ r => [l, r]
  | .unary _ e => [e]
  | .nested e => [e]
  | .cast _ e _ _ => [e]
  | .inSubquery e _ _ => [e]
  | .test e _ _ => [e]
  | .inList e _ items => e :: items
  | .between e _ low high => [e, low, high]
  | .pattern e _ _ _ p _ => [e, p]
  | .case operand branches otherwise =>
    operand.toList ++ (branches.flatMap fun b => [b.condition, b.result]) ++ otherwise.toList
  | .tuple items => items
  | .call _ _ (.list _ items _) _ => items.filterMap Arg.expr?
  | _ => []

/-- The queries that stand directly in an expression. -/
def directSubqueries : Expr → List Query
  | .subquery q => [q]
  | .exists_ _ q => [q]
  | .inSubquery _ _ q => [q]
  | .call _ _ (.subquery q) _ => [q]
  | _ => []

end Expr

/-! ## All operands at any depth -/

mutual

/-- Every operand of the expression and of its operands, each before its own, in textual order. -/
def Expr.descendants : Expr → List Expr
  | .ident _ => []
  | .compound _ => []
  | .value _ => []
  | .nested e => e :: e.descendants
  | .tuple items => Expr.descendantsList items
  | .unary _ e => e :: e.descendants
  | .binary l _ r => l :: l.descendants ++ r :: r.descendants
  | .test e _ _ => e :: e.descendants
  | .distinctFrom l _ r => l :: l.descendants ++ r :: r.descendants
  | .inList e _ items => e :: e.descendants ++ Expr.descendantsList items
  | .inSubquery e _ _ => e :: e.descendants
  | .between e _ low high => e :: e.descendants ++ low :: low.descendants ++ high :: high.descendants
  | .pattern e _ _ _ p _ => e :: e.descendants ++ p :: p.descendants
  | .quantified l _ _ r => l :: l.descendants ++ r :: r.descendants
  | .cast _ e _ _ => e :: e.descendants
  | .case operand branches otherwise =>
    Expr.descendantsOption operand ++ Branch.descendantsList branches ++ Expr.descendantsOption otherwise
  | .subquery _ => []
  | .exists_ _ _ => []
  | .call _ _ args _ => args.descendants
  | .form _ _ => []

def Expr.descendantsList : List Expr → List Expr
  | [] => []
  | e :: es => e :: e.descendants ++ Expr.descendantsList es

def Expr.descendantsOption : Option Expr → List Expr
  | none => []
  | some e => e :: e.descendants

def Branch.descendants : Branch → List Expr
  | ⟨condition, result⟩ => condition :: condition.descendants ++ result :: result.descendants

def Branch.descendantsList : List Branch → List Expr
  | [] => []
  | b :: bs => b.descendants ++ Branch.descendantsList bs

def Args.descendants : Args → List Expr
  | .absent => []
  | .subquery _ => []
  | .list _ items _ => Arg.descendantsList items

def Arg.descendants : Arg → List Expr
  | .expr e => e :: e.descendants
  | .named _ _ e => e :: e.descendants
  | .star _ => []
  | .namedStar _ _ _ => []

def Arg.descendantsList : List Arg → List Expr
  | [] => []
  | a :: as => a.descendants ++ Arg.descendantsList as

end

namespace Expr

/-- The expression and every operand at any depth. -/
def subterms (e : Expr) : List Expr := e :: e.descendants

/-- Every query reached without entering another one. -/
def nestedQueries (e : Expr) : List Query := e.subterms.flatMap directSubqueries

/-- The columns referred to, as written and in textual order. -/
def referencedColumns (e : Expr) : List String := e.subterms.filterMap plainColumn?

def distinctColumns (e : Expr) : List String := Text.distinct e.referencedColumns

def placeholderCount (e : Expr) : Nat := e.subterms.countP isPlaceholder

end Expr

end SqlTemplate
