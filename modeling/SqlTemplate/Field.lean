/-
The columns of a statement by the role they play: selected, inserted, assigned, or referred to by a
condition. Each column and role is listed once, where it first occurs.
-/
import SqlTemplate.Condition.Collect
import SqlTemplate.Name

namespace SqlTemplate

namespace Field

inductive Role where
  | select
  | insert
  | updateSet
  | condition
deriving DecidableEq

def Role.text : Role → String
  | .select => "SELECT"
  | .insert => "INSERT"
  | .updateSet => "UPDATE_SET"
  | .condition => "CONDITION"

end Field

/-- A column with what stands before it in its reference; `*` is a column too. -/
structure Field where
  column : String
  qualifier : Option String
  role : Field.Role
deriving DecidableEq

namespace Field

def ofReference (role : Role) (reference : String) : Field :=
  let (qualifier, column) := Name.splitColumn reference
  ⟨column, qualifier, role⟩

def print (f : Field) : String :=
  match f.qualifier with
  | some q => q ++ "." ++ f.column ++ " (" ++ f.role.text ++ ")"
  | none => f.column ++ " (" ++ f.role.text ++ ")"

/-- Columns of a WHERE, ON or HAVING condition are fields; those of pairings are listed as targets. -/
def ofCondition (n : Condition.Node) : List Field :=
  match n.summary.position with
  | .where_ | .joinOn | .having => n.summary.columns.map (ofReference .condition)
  | .insertValues | .updateSet => []

end Field

open SqlTemplate.Field (Role)

def SelectItem.fields : SelectItem → List Field
  | .expr e _ => e.referencedColumns.map (Field.ofReference .select)
  | .wildcard table _ => [⟨"*", table.map ObjectName.print, .select⟩]

mutual

/-- The columns that each branch of a body selects. -/
def SetExpr.fields : SetExpr → List Field
  | .select s => s.projection.flatMap SelectItem.fields
  | .query q => q.fields
  | .operation l _ _ r => l.fields ++ r.fields
  | .values _ _ => []
  | .table _ => []
  | .insert _ => []
  | .update _ => []
  | .delete _ => []

def Query.fields : Query → List Field
  | ⟨_, _, body, _⟩ => body.fields

end

def targetFields (role : Role) (assignments : List Assignment) : List Field :=
  assignments.flatMap fun a => a.target.columns.map (Field.ofReference role)

/-- The columns that a statement selects or writes to. -/
def Statement.targetFields : Statement → List Field
  | .query q => q.fields
  | .insert i => (i.columns.map fun c => Field.ofReference .insert c.print) ++ SqlTemplate.targetFields .insert i.assignments
  | .update u => SqlTemplate.targetFields .updateSet u.assignments
  | .delete _ => []
  | .other => []

/-- The fields of a statement. -/
def Statement.fields (st : Statement) : Except Error (List Field) := do
  let conditions ← st.conditions
  return Text.distinct (st.targetFields ++ conditions.flatMap Field.ofCondition)

end SqlTemplate
