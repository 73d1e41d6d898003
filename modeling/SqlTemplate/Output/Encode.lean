/-
Results as JSON values. Fields stand in the order in which they are printed; what is absent is left
out, except an alias, which is then `null`.
-/
import SqlTemplate.Analysis
import SqlTemplate.Json.Basic

namespace SqlTemplate

def Table.Reference.toJson (r : Table.Reference) : Json :=
  .object [("name", .string r.name), ("alias", .ofOption r.aliasName), ("role", .string r.role.text)]

def Table.Set.toJson (s : Table.Set) : Json := .array (s.entries.map Table.Reference.toJson)

def Parameter.toJson (p : Parameter) : Json :=
  .object
    ([("index", .ofNat p.index), ("marker", .string p.marker)] ++ Json.field? "name" (p.name.map Json.string) ++
      [("line", .ofNat p.location.line), ("column", .ofNat p.location.column)])

def Field.toJson (f : Field) : Json :=
  .object
    ([("column", .string f.column)] ++ Json.field? "qualifier" (f.qualifier.map Json.string) ++
      [("role", .string f.role.text)])

namespace Condition

/-- The fields of a summary after the ones that tell kinds of nodes apart. -/
def Summary.fields (s : Summary) : List (String × Json) :=
  [("columns", .array (s.columns.map Json.string)), ("operands", .ofNat s.operands),
    ("parameters", .ofNat s.parameters), ("sql", .string s.sql)]

/-- The fields of a node before its children. -/
def Node.ownFields (n : Node) : List (String × Json) :=
  [("position", .string n.summary.position.text), ("type", .string n.kind.text)] ++
    Json.field? "operator" (n.operator?.map fun op => .string op.text) ++
    Json.field? "connective" (n.connective?.map fun c => .string c.text) ++ n.summary.fields

mutual

def Node.toJson : Node → Json
  | .leaf op s => .object (Node.leaf op s).ownFields
  | .group c s children =>
    .object ((Node.group c s children).ownFields ++
      (if children.isEmpty then [] else [("children", .array (Node.toJsonList children))]))

def Node.toJsonList : List Node → List Json
  | [] => []
  | n :: ns => n.toJson :: Node.toJsonList ns

end

end Condition

def Analysis.toJson (a : Analysis) : Json :=
  .object
    [("kind", .string a.kind.text), ("normalized_sql", .string a.text), ("tables", a.tables.toJson),
      ("parameters", .array (a.parameters.map Parameter.toJson)),
      ("conditions", .array (Condition.Node.toJsonList a.conditions)), ("fields", .array (a.fields.map Field.toJson))]

end SqlTemplate
