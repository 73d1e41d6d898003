/-
The conditions of a whole statement, in document order: the predicates of every WHERE, HAVING and
ON, at every query level, and the pairing of columns with values by INSERT and UPDATE. A predicate
comes before the conditions of the queries nested in it.
-/
import SqlTemplate.Condition.Classify

namespace SqlTemplate

open Condition

/-- Conditions found so far, or the first error. -/
abbrev Conditions := Except Error (List Node)

def Target.columns : Target → List String
  | .column name => [name.print]
  | .row names => names.map ObjectName.print

/-- The pairings of `INSERT ... SET`; an assignment to several columns at once pairs nothing. -/
def insertedPairings : List Assignment → Conditions
  | [] => .ok []
  | ⟨.column name, v⟩ :: rest => do
    let n ← pairing [name.print] 1 v .insertValues
    return n :: (← insertedPairings rest)
  | ⟨.row _, _⟩ :: rest => insertedPairings rest

/-- A row of the wrong length. -/
def rowMismatch (columns found : Nat) : Error := .arity .eq (toString columns) found

mutual

/-- The conditions of the queries nested in an expression. -/
def Expr.innerConditions : Expr → Conditions
  | .ident _ => .ok []
  | .compound _ => .ok []
  | .value _ => .ok []
  | .nested e => e.innerConditions
  | .tuple items => Expr.innerConditionsList items
  | .unary _ e => e.innerConditions
  | .binary l _ r => do return (← l.innerConditions) ++ (← r.innerConditions)
  | .test e _ _ => e.innerConditions
  | .distinctFrom l _ r => do return (← l.innerConditions) ++ (← r.innerConditions)
  | .inList e _ items => do return (← e.innerConditions) ++ (← Expr.innerConditionsList items)
  | .inSubquery e _ q => do return (← q.conditions) ++ (← e.innerConditions)
  | .between e _ low high => do
    return (← e.innerConditions) ++ (← low.innerConditions) ++ (← high.innerConditions)
  | .pattern e _ _ _ p _ => do return (← e.innerConditions) ++ (← p.innerConditions)
  | .quantified l _ _ r => do return (← l.innerConditions) ++ (← r.innerConditions)
  | .cast _ e _ _ => e.innerConditions
  | .case operand branches otherwise => do
    return (← Expr.innerConditionsOption operand) ++ (← Branch.innerConditionsList branches) ++
      (← Expr.innerConditionsOption otherwise)
  | .subquery q => q.conditions
  | .exists_ _ q => q.conditions
  | .call _ _ args _ => args.innerConditions
  | .form _ _ => .ok []

def Expr.innerConditionsList : List Expr → Conditions
  | [] => .ok []
  | e :: es => do return (← e.innerConditions) ++ (← Expr.innerConditionsList es)

def Expr.innerConditionsOption : Option Expr → Conditions
  | none => .ok []
  | some e => e.innerConditions

def Expr.innerConditionsRows : List (List Expr) → Conditions
  | [] => .ok []
  | row :: rows => do return (← Expr.innerConditionsList row) ++ (← Expr.innerConditionsRows rows)

/-- A predicate and then the conditions of the queries nested in it. -/
def Expr.predicateConditions (p : Position) : Option Expr → Conditions
  | none => .ok []
  | some e => do
    let n ← classify p e
    return n :: (← e.innerConditions)

/-- One row paired with its columns, column by column. -/
def Expr.rowPairings : List Ident → List Expr → Conditions
  | c :: cs, v :: vs => do
    let n ← pairing [c.print] 1 v .insertValues
    let inner ← v.innerConditions
    return n :: inner ++ (← Expr.rowPairings cs vs)
  | _, _ => .ok []

/-- Rows paired with the columns they are inserted into; each has to be as long as the columns. -/
def Expr.rowsPairings (columns : List Ident) : List (List Expr) → Conditions
  | [] => .ok []
  | row :: rows => do
    if row.length != columns.length then throw (rowMismatch columns.length row.length)
    return (← Expr.rowPairings columns row) ++ (← Expr.rowsPairings columns rows)

def Branch.innerConditions : Branch → Conditions
  | ⟨condition, result⟩ => do return (← condition.innerConditions) ++ (← result.innerConditions)

def Branch.innerConditionsList : List Branch → Conditions
  | [] => .ok []
  | b :: bs => do return (← b.innerConditions) ++ (← Branch.innerConditionsList bs)

def Args.innerConditions : Args → Conditions
  | .absent => .ok []
  | .subquery q => q.conditions
  | .list _ items _ => Arg.innerConditionsList items

def Arg.innerConditions : Arg → Conditions
  | .expr e => e.innerConditions
  | .named _ _ e => e.innerConditions
  | .star _ => .ok []
  | .namedStar _ _ _ => .ok []

def Arg.innerConditionsList : List Arg → Conditions
  | [] => .ok []
  | a :: as => do return (← a.innerConditions) ++ (← Arg.innerConditionsList as)

def Query.conditions : Query → Conditions
  | ⟨_, ctes, body, _⟩ => do return (← Cte.conditionsList ctes) ++ (← body.conditions)

/-- The conditions of the query that rows are inserted from: a VALUES list is paired with the columns. -/
def Query.sourceConditions (columns : List Ident) : Query → Conditions
  | ⟨_, ctes, body, _⟩ =>
    match body with
    | .values _ rows =>
      if columns.isEmpty then do return (← Cte.conditionsList ctes) ++ (← Expr.innerConditionsRows rows)
      else Expr.rowsPairings columns rows
    | other => do return (← Cte.conditionsList ctes) ++ (← other.conditions)

def Query.sourceConditionsOption (columns : List Ident) : Option Query → Conditions
  | none => .ok []
  | some q => q.sourceConditions columns

def Cte.conditions : Cte → Conditions
  | ⟨_, _, q, _⟩ => q.conditions

def Cte.conditionsList : List Cte → Conditions
  | [] => .ok []
  | c :: cs => do return (← c.conditions) ++ (← Cte.conditionsList cs)

def SetExpr.conditions : SetExpr → Conditions
  | .select s => s.conditions
  | .query q => q.conditions
  | .operation l _ _ r => do return (← l.conditions) ++ (← r.conditions)
  | .values _ rows => Expr.innerConditionsRows rows
  | .table _ => .ok []
  | .insert i => i.conditions
  | .update u => u.conditions
  | .delete _ => .ok []

def Select.conditions : Select → Conditions
  | ⟨_, _, projection, _, tables, _, selection, _, having, _⟩ => do
    return (← SelectItem.conditionsList projection) ++ (← TableTree.conditionsList tables) ++
      (← Expr.predicateConditions .where_ selection) ++ (← Expr.predicateConditions .having having)

def SelectItem.conditions : SelectItem → Conditions
  | .expr e _ => e.innerConditions
  | .wildcard _ _ => .ok []

def SelectItem.conditionsList : List SelectItem → Conditions
  | [] => .ok []
  | i :: is => do return (← i.conditions) ++ (← SelectItem.conditionsList is)

def TableTree.conditions : TableTree → Conditions
  | ⟨relation, joins⟩ => do return (← relation.conditions) ++ (← Join.conditionsList joins)

def TableTree.conditionsList : List TableTree → Conditions
  | [] => .ok []
  | t :: ts => do return (← t.conditions) ++ (← TableTree.conditionsList ts)

def Factor.conditions : Factor → Conditions
  | .table _ _ _ _ => .ok []
  | .tableCall _ _ _ _ _ => .ok []
  | .derived _ q _ => q.conditions
  | .nested t _ => t.conditions
  | .computed _ _ _ => .ok []
  | .turned _ _ _ => .ok []

def Join.conditions : Join → Conditions
  | ⟨_, op, relation, _, condition, _⟩ => do
    let inner ← relation.conditions
    return inner ++ (← if op.hasCondition then Expr.predicateConditions .joinOn condition else .ok [])

def Join.conditionsList : List Join → Conditions
  | [] => .ok []
  | j :: js => do return (← j.conditions) ++ (← Join.conditionsList js)

def Assignment.conditions : Assignment → Conditions
  | ⟨target, v⟩ => do
    let n ← pairing target.columns target.columns.length v .updateSet
    return n :: (← v.innerConditions)

def Assignment.conditionsList : List Assignment → Conditions
  | [] => .ok []
  | a :: as => do return (← a.conditions) ++ (← Assignment.conditionsList as)

def Insert.conditions : Insert → Conditions
  | ⟨_, _, _, _, columns, _, source, assignments, _, _, _⟩ => do
    return (← insertedPairings assignments) ++ (← Query.sourceConditionsOption columns source)

def Update.conditions : Update → Conditions
  | ⟨_, table, sources, sourcesFirst, assignments, selection, _⟩ => do
    let target ← table.conditions
    let early ← if sourcesFirst then TableTree.conditionsList sources else .ok []
    let sets ← Assignment.conditionsList assignments
    let late ← if sourcesFirst then .ok [] else TableTree.conditionsList sources
    return target ++ early ++ sets ++ late ++ (← Expr.predicateConditions .where_ selection)

end

def Delete.conditions (d : Delete) : Conditions := do
  return (← TableTree.conditionsList d.tables) ++ (← TableTree.conditionsList d.usingTables) ++
    (← Expr.predicateConditions .where_ d.selection)

/-- The conditions of a statement that reads or changes rows. -/
def Statement.conditions : Statement → Conditions
  | .query q => q.conditions
  | .insert i => i.conditions
  | .update u => u.conditions
  | .delete d => d.conditions
  | .other =>
    .error (.unsupported "conditions are only collected for SELECT, INSERT, UPDATE and DELETE statements")

end SqlTemplate
