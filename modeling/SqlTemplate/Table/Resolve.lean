/-
The tables of a statement. Every relation of the statement and of the queries in it is met once, in
an order that puts the outer statement first; the result keeps the first reference of each key. A
name that a WITH list in scope declares is no table.
-/
import SqlTemplate.Error
import SqlTemplate.Table.Reference
import SqlTemplate.Tree.Print

namespace SqlTemplate

open Table (Role Reference)

namespace Table

/-- Where a relation stands: whether in a nested query, and which names are declared there. -/
structure Scope where
  isNested : Bool
  ctes : List String

namespace Scope

def outer : Scope := ⟨false, []⟩

def nested (s : Scope) : Scope := { s with isNested := true }

def mainRole (s : Scope) : Role := if s.isNested then .subquery else .main

def joinRole (s : Scope) : Role := if s.isNested then .subquery else .join

/-- Whether a table name is one that a WITH list declares; a qualified name never is. -/
def declares (s : Scope) (name : String) : Bool :=
  (Name.parts name).length == 1 && s.ctes.contains (Name.objectKey name)

end Scope

/-- The role of the joined tables in a parenthesised join that plays `role`. -/
def innerJoinRole (role : Role) : Role := if role == .subquery then .subquery else .join

/-- References met so far, or the first error. -/
abbrev References := Except Error (List Reference)

end Table

open Table (Scope References)

def TableAlias.text (a : TableAlias) : String := a.name.print

/-- A table in scope `s`; none if the name is declared there. -/
def namedReference (s : Scope) (role : Role) (name : ObjectName) (aliasName : Option String) : List Reference :=
  if s.declares name.print then [] else [⟨name.print, aliasName, role⟩]

/-- A query in the place of a table goes by its alias. -/
def derivedReference (aliasName : Option TableAlias) : List Reference :=
  match aliasName with
  | some a => [⟨a.text, some a.text, .subquery⟩]
  | none => []

def Cte.key : Cte → String
  | ⟨aliasName, _, _, _⟩ => Name.key aliasName.name.print

/-- The scope of a query with this WITH list. -/
def Table.Scope.declaring (s : Scope) (ctes : List Cte) : Scope := { s with ctes := s.ctes ++ ctes.map Cte.key }

def unsupportedFactor (f : Factor) : Error := .unsupported ("table factor `" ++ f.print ++ "` is not supported")

mutual

/-- The tables of the queries nested in an expression. -/
def Expr.references (s : Scope) : Expr → References
  | .ident _ => .ok []
  | .compound _ => .ok []
  | .value _ => .ok []
  | .nested e => e.references s
  | .tuple items => Expr.referencesList s items
  | .unary _ e => e.references s
  | .binary l _ r => do return (← l.references s) ++ (← r.references s)
  | .test e _ _ => e.references s
  | .distinctFrom l _ r => do return (← l.references s) ++ (← r.references s)
  | .inList e _ items => do return (← e.references s) ++ (← Expr.referencesList s items)
  | .inSubquery e _ q => do return (← q.references s.nested) ++ (← e.references s)
  | .between e _ low high => do return (← e.references s) ++ (← low.references s) ++ (← high.references s)
  | .pattern e _ _ _ p _ => do return (← e.references s) ++ (← p.references s)
  | .quantified l _ _ r => do return (← l.references s) ++ (← r.references s)
  | .cast _ e _ _ => e.references s
  | .case operand branches otherwise => do
    return (← Expr.referencesOption s operand) ++ (← Branch.referencesList s branches) ++ (← Expr.referencesOption s otherwise)
  | .subquery q => q.references s.nested
  | .exists_ _ q => q.references s.nested
  | .call _ _ args _ => args.references s
  | .form _ _ => .ok []

def Expr.referencesList (s : Scope) : List Expr → References
  | [] => .ok []
  | e :: es => do return (← e.references s) ++ (← Expr.referencesList s es)

def Expr.referencesOption (s : Scope) : Option Expr → References
  | none => .ok []
  | some e => e.references s

def Expr.referencesRows (s : Scope) : List (List Expr) → References
  | [] => .ok []
  | row :: rows => do return (← Expr.referencesList s row) ++ (← Expr.referencesRows s rows)

def Branch.references (s : Scope) : Branch → References
  | ⟨condition, result⟩ => do return (← condition.references s) ++ (← result.references s)

def Branch.referencesList (s : Scope) : List Branch → References
  | [] => .ok []
  | b :: bs => do return (← b.references s) ++ (← Branch.referencesList s bs)

def Args.references (s : Scope) : Args → References
  | .absent => .ok []
  | .subquery q => q.references s.nested
  | .list _ items _ => Arg.referencesList s items

def Arg.references (s : Scope) : Arg → References
  | .expr e => e.references s
  | .named _ _ e => e.references s
  | .star _ => .ok []
  | .namedStar _ _ _ => .ok []

def Arg.referencesList (s : Scope) : List Arg → References
  | [] => .ok []
  | a :: as => do return (← a.references s) ++ (← Arg.referencesList s as)

/-- The body's tables, then those of the WITH list. -/
def Query.references (s : Scope) : Query → References
  | ⟨_, ctes, body, _⟩ => do
    let inner := s.declaring ctes
    return (← body.references inner) ++ (← Cte.referencesList inner.nested ctes)

def Query.referencesOption (s : Scope) : Option Query → References
  | none => .ok []
  | some q => q.references s

def Cte.references (s : Scope) : Cte → References
  | ⟨_, _, q, _⟩ => q.references s

def Cte.referencesList (s : Scope) : List Cte → References
  | [] => .ok []
  | c :: cs => do return (← c.references s) ++ (← Cte.referencesList s cs)

def SetExpr.references (s : Scope) : SetExpr → References
  | .select sel => sel.references s
  | .query q => q.references s
  | .operation l _ _ r => do return (← l.references s) ++ (← r.references s.nested)
  | .values _ rows => Expr.referencesRows s rows
  | .table name => .error (.unsupported ("query body `TABLE " ++ name ++ "` is not supported"))
  | .insert i => i.references s
  | .update u => u.references s
  | .delete d => .error (.unsupported ("query body `" ++ d.print ++ "` is not supported"))

def Select.references (s : Scope) : Select → References
  | ⟨_, _, projection, _, trees, _, selection, _, having, _⟩ => do
    return (← TableTree.referencesFrom s trees) ++ (← SelectItem.referencesList s projection) ++
      (← Expr.referencesOption s selection) ++ (← Expr.referencesOption s having)

def SelectItem.references (s : Scope) : SelectItem → References
  | .expr e _ => e.references s
  | .wildcard _ _ => .ok []

def SelectItem.referencesList (s : Scope) : List SelectItem → References
  | [] => .ok []
  | i :: is => do return (← i.references s) ++ (← SelectItem.referencesList s is)

/-- A relation in `role` and what is joined to it in `joinRole`. -/
def TableTree.references (s : Scope) (role joinRole : Role) : TableTree → References
  | ⟨relation, joins⟩ => do return (← relation.references s role) ++ (← Join.referencesList s joinRole joins)

/-- Relations that are all joined ones. -/
def TableTree.referencesJoined (s : Scope) : List TableTree → References
  | [] => .ok []
  | t :: ts => do return (← t.references s s.joinRole s.joinRole) ++ (← TableTree.referencesJoined s ts)

/-- A FROM list: its first relation is the main one. -/
def TableTree.referencesFrom (s : Scope) : List TableTree → References
  | [] => .ok []
  | t :: ts => do return (← t.references s s.mainRole s.joinRole) ++ (← TableTree.referencesJoined s ts)

def Factor.references (s : Scope) (role : Role) : Factor → References
  | .table name aliasName _ _ => .ok (namedReference s role name (aliasName.map TableAlias.text))
  | .tableCall name args aliasName details clauses =>
    .error (.unsupported
      ("table function `" ++ (Factor.tableCall name args aliasName details clauses).print ++ "` is not supported"))
  | .derived _ q aliasName => do return derivedReference aliasName ++ (← q.references s.nested)
  | .nested t _ => t.references s role (Table.innerJoinRole role)
  | .computed body aliasName rest => .error (unsupportedFactor (.computed body aliasName rest))
  | .turned f turn aliasName => .error (unsupportedFactor (.turned f turn aliasName))

def Join.references (s : Scope) (role : Role) : Join → References
  | ⟨_, op, relation, _, condition, _⟩ => do
    let here ← relation.references s role
    return here ++ (← if op.hasCondition then Expr.referencesOption s condition else .ok [])

def Join.referencesList (s : Scope) (role : Role) : List Join → References
  | [] => .ok []
  | j :: js => do return (← j.references s role) ++ (← Join.referencesList s role js)

def Assignment.references (s : Scope) : Assignment → References
  | ⟨_, v⟩ => v.references s

def Assignment.referencesList (s : Scope) : List Assignment → References
  | [] => .ok []
  | a :: as => do return (← a.references s) ++ (← Assignment.referencesList s as)

def Insert.references (s : Scope) : Insert → References
  | ⟨_, _, table, aliasName, _, _, source, assignments, _, _, _⟩ => do
    return ⟨ObjectName.print table, aliasName.map Ident.print, s.mainRole⟩ :: (← Query.referencesOption s.nested source) ++
      (← Assignment.referencesList s assignments)

def Update.references (s : Scope) : Update → References
  | ⟨_, table, sources, _, assignments, selection, _⟩ => do
    return (← table.references s s.mainRole s.joinRole) ++ (← TableTree.referencesJoined s sources) ++
      (← Assignment.referencesList s assignments) ++ (← Expr.referencesOption s selection)

end

def Delete.references (s : Scope) (d : Delete) : References := do
  return (← TableTree.referencesFrom s d.tables) ++ (← TableTree.referencesJoined s d.usingTables) ++
    (← Expr.referencesOption s d.selection)

/-- The references of a statement that reads or changes rows, in the order in which they are met. -/
def Statement.references : Statement → References
  | .query q => q.references .outer
  | .insert i => i.references .outer
  | .update u => u.references .outer
  | .delete d => d.references .outer
  | .other => .error (.unsupported "tables are only resolved for SELECT, INSERT, UPDATE and DELETE statements")

/-- The tables of a statement. -/
def Statement.tables (st : Statement) : Except Error Table.Set := do
  return .ofList (← st.references)

end SqlTemplate
