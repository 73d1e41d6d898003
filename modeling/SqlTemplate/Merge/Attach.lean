/-
Where fragments attach to a statement: the join list that is extended, the names already bound, and
how many placeholders come before the joins and before the end of WHERE. New placeholders may only
come after those that are there, so that none of these is renumbered.
-/
import SqlTemplate.Merge.Binding
import SqlTemplate.Merge.Fragment

namespace SqlTemplate.Merge

/-- How a statement takes joins. -/
inductive Slot where
  | append
  | nameTarget (target : ObjectName)
  | refuse (why : String)
deriving DecidableEq

structure AttachPoint where
  slot : Slot
  bound : List String
  beforeJoins : Nat
  throughWhere : Nat
deriving DecidableEq

def noTables (what : String) : Error :=
  .unmergeable ("no FROM clause to attach to: " ++ what ++ " cannot be merged into")

/-- The placeholders in several printed pieces. -/
def countAll (c : Config) : List String → Except Error Nat
  | [] => .ok 0
  | t :: ts => do return (← countMarkers c t) + (← countAll c ts)

/-! ## Attach points -/

/-- A WITH list as it is printed. -/
def printWith (recursive : Bool) (ctes : List Cte) : List String :=
  if ctes.isEmpty then []
  else ["WITH " ++ Form.optional recursive "RECURSIVE " ++ Text.commas (Cte.printList ctes)]

def selectPoint (c : Config) (recursive : Bool) (ctes : List Cte) (s : Select) : Except Error AttachPoint := do
  let inWith ← countAll c (printWith recursive ctes)
  let inItems ← countAll c (SelectItem.printList s.projection)
  let inTables ← countAll c (TableTree.printList s.tables)
  let inWhere ← countAll c (Expr.printOption s.selection).toList
  if s.tables.isEmpty then throw (noTables "a SELECT without FROM")
  let before := inWith + inItems + inTables
  return ⟨.append, treeBindings s.tables, before, before + inWhere⟩

def updatePoint (c : Config) (u : Update) : Except Error AttachPoint := do
  let inTable ← countAll c [u.table.print]
  let inSets ← countAll c (Assignment.printList u.assignments)
  let inSources ← countAll c (TableTree.printList u.sources)
  let inWhere ← countAll c (Expr.printOption u.selection).toList
  let bound := u.table.bindings ++ treeBindings u.sources
  let through := inTable + inSets + inSources + inWhere
  if !u.sources.isEmpty then
    return ⟨.append, bound, if u.sourcesFirst then inTable + inSources else inTable + inSets + inSources, through⟩
  else if c.dialect.joinsUpdateTarget then return ⟨.append, bound, inTable, through⟩
  else
    let why := "the " ++ c.dialect.name ++ " dialect cannot join onto the target of an UPDATE"
    return ⟨.refuse why, bound, inTable, through⟩

/-- The name of a table to delete from once others are joined to it. -/
def deleteTarget? : Factor → Option ObjectName
  | .table _ (some a) _ _ => some [a.name]
  | .table name none _ _ => some name
  | .tableCall _ _ (some a) _ _ => some [a.name]
  | .tableCall name _ none _ _ => some name
  | _ => none

def deleteSlot (d : Dialect) (del : Delete) : Slot :=
  if !del.usingTables.isEmpty || !del.targets.isEmpty then .append
  else if !d.multiTableDelete then
    .refuse ("the " ++ d.name ++ " dialect cannot join onto the target of a DELETE")
  else if !del.clauses.isEmpty then
    .refuse "a DELETE with ORDER BY or LIMIT cannot be turned into a multi-table DELETE"
  else
    match del.tables.head?.bind fun t => deleteTarget? t.relation with
    | some name => .nameTarget name
    | none => .refuse "DELETE target is not a plain table"

def deletePoint (c : Config) (del : Delete) : Except Error AttachPoint := do
  if del.tables.isEmpty then throw (noTables "a DELETE without tables")
  let inTargets ← countAll c (del.targets.map ObjectName.print)
  let inTables ← countAll c (TableTree.printList del.tables)
  let inUsing ← countAll c (TableTree.printList del.usingTables)
  let inWhere ← countAll c (Expr.printOption del.selection).toList
  let before := inTargets + inTables + inUsing
  return ⟨deleteSlot c.dialect del, treeBindings del.tables ++ treeBindings del.usingTables, before, before + inWhere⟩

def attachPoint (c : Config) : Statement → Except Error AttachPoint
  | .query ⟨recursive, ctes, .select s, _⟩ => selectPoint c recursive ctes s
  | .query _ => .error (noTables "set operations and VALUES lists")
  | .update u => updatePoint c u
  | .delete d => deletePoint c d
  | .insert _ => .error (noTables "INSERT statements")
  | .other => .error (noTables "statements other than SELECT, UPDATE and DELETE")

/-! ## Attaching -/

def appendJoins (joins : List Join) (t : TableTree) : TableTree := { t with joins := t.joins ++ joins }

/-- Changes the last element of a list. -/
def changeLast {α : Type} (f : α → α) : List α → List α
  | [] => []
  | [a] => [f a]
  | a :: as => a :: changeLast f as

/-- The statement with more joins in the list that `attachPoint` found. -/
def addJoins (joins : List Join) (slot : Slot) : Statement → Statement
  | .query ⟨recursive, ctes, .select s, clauses⟩ =>
    .query ⟨recursive, ctes, .select { s with tables := changeLast (appendJoins joins) s.tables }, clauses⟩
  | .update u =>
    if u.sources.isEmpty then .update { u with table := appendJoins joins u.table }
    else .update { u with sources := changeLast (appendJoins joins) u.sources }
  | .delete d =>
    let d := match slot with | .nameTarget name => { d with targets := d.targets ++ [name] } | _ => d
    if d.usingTables.isEmpty then .delete { d with tables := changeLast (appendJoins joins) d.tables }
    else .delete { d with usingTables := changeLast (appendJoins joins) d.usingTables }
  | st => st

def parenthesize : Expr → Expr
  | .nested e => .nested e
  | e => .nested e

/-- A predicate that holds where both do. -/
def conjoin (existing : Option Expr) (added : Expr) : Expr :=
  match existing with
  | none => added
  | some e => .binary (parenthesize e) .and (parenthesize added)

/-- The statement with one more predicate. -/
def addPredicate (added : Expr) : Statement → Statement
  | .query ⟨recursive, ctes, .select s, clauses⟩ =>
    .query ⟨recursive, ctes, .select { s with selection := some (conjoin s.selection added) }, clauses⟩
  | .update u => .update { u with selection := some (conjoin u.selection added) }
  | .delete d => .delete { d with selection := some (conjoin d.selection added) }
  | st => st

end SqlTemplate.Merge
