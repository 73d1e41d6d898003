/-
What is known about one template: its kind, tables, parameters, conditions and fields, one by one or
all together.
-/
import SqlTemplate.Field
import SqlTemplate.Kind
import SqlTemplate.Parameter
import SqlTemplate.Table.Resolve
import SqlTemplate.Template.Parse

namespace SqlTemplate

/-- Everything about a template; definitions have neither tables nor conditions nor fields. -/
structure Analysis where
  kind : Kind
  text : String
  tables : Table.Set
  parameters : List Parameter
  conditions : List Condition.Node
  fields : List Field

namespace Template

def kind (c : Config) (template : String) : Except Error Kind := do
  let p ← parse c template
  p.statement.kind (← tokenize c p.normalized.text)

def tables (c : Config) (template : String) : Except Error Table.Set := do
  (← parse c template).statement.tables

def parameters (c : Config) (template : String) : Except Error (List Parameter) := do
  let p ← parse c template
  return Parameter.resolve (← tokenize c p.normalized.text) p.normalized.origins

def conditions (c : Config) (template : String) : Except Error (List Condition.Node) := do
  (← parse c template).statement.conditions

def fields (c : Config) (template : String) : Except Error (List Field) := do
  (← parse c template).statement.fields

def analyze (c : Config) (template : String) : Except Error Analysis := do
  let p ← parse c template
  let tokens ← tokenize c p.normalized.text
  let kind ← p.statement.kind tokens
  let parameters := Parameter.resolve tokens p.normalized.origins
  if kind.isDml then
    let tables ← p.statement.tables
    let conditions ← p.statement.conditions
    return ⟨kind, p.normalized.text, tables, parameters, conditions, ← p.statement.fields⟩
  else return ⟨kind, p.normalized.text, .empty, parameters, [], []⟩

end Template

end SqlTemplate
