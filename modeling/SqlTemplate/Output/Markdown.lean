/-
Results as text: one line for each table, parameter and field, a nested list for conditions, and a
Markdown report for a whole analysis.
-/
import SqlTemplate.Analysis

namespace SqlTemplate

def lines (items : List String) : String := String.join (items.map (· ++ "\n"))

def Parameter.printAll (ps : List Parameter) : String := String.join (ps.map Parameter.print)

def Field.printAll (fs : List Field) : String := lines (fs.map Field.print)

/-! ## Conditions -/

namespace Condition

/-- The line of a node, without its indentation. -/
def Node.headline : Node → String
  | .leaf op s => "- **" ++ s.position.text ++ "** " ++ op.kind.text ++ " `" ++ op.text ++ "`: `" ++ s.sql ++ "`"
  | .group c s children =>
    "- **" ++ s.position.text ++ "** " ++ c.text ++ " (" ++ toString children.length ++ " children)"

def indent (depth : Nat) : String := String.ofList (List.replicate (2 * depth) ' ')

mutual

/-- A node and the nodes below it, each on a line and two spaces deeper than the one above. -/
def Node.printAt (depth : Nat) : Node → String
  | .leaf op s => indent depth ++ (Node.leaf op s).headline ++ "\n"
  | .group c s children =>
    indent depth ++ (Node.group c s children).headline ++ "\n" ++ Node.printListAt (depth + 1) children

def Node.printListAt (depth : Nat) : List Node → String
  | [] => ""
  | n :: ns => n.printAt depth ++ Node.printListAt depth ns

end

def printAll (ns : List Node) : String := Node.printListAt 0 ns

end Condition

/-! ## Reports -/

namespace Report

/-- A cell of a table cannot hold a bare bar. -/
def cell (text : String) : String := String.ofList (text.toList.flatMap fun c => if c == '|' then ['\\', c] else [c])

def optionalCell (text : Option String) : String :=
  match text with
  | some t => cell t
  | none => "-"

def row (cells : List String) : String := "| " ++ Text.join " | " cells ++ " |"

/-- A section, left out if it has no lines. -/
def sectionLines (title : String) (head body : List String) : List String :=
  if body.isEmpty then [] else ["", "## " ++ title, ""] ++ head ++ body

def tableRow (r : Table.Reference) : String := row [cell r.name, optionalCell r.aliasName, r.role.text]

def parameterRow (p : Parameter) : String :=
  row [toString p.index, "`" ++ p.marker ++ "`", p.name.getD "-",
    toString p.location.line ++ ":" ++ toString p.location.column]

def fieldRow (f : Field) : String := row [cell f.column, optionalCell f.qualifier, f.role.text]

/-- The report up to its first section. -/
def heading (a : Analysis) : List String :=
  ["# sqlsift Analysis Report", "", "**Kind:** " ++ a.kind.text, "", "```sql", Text.trim a.text, "```"]

def conditionSection (ns : List Condition.Node) : String :=
  if ns.isEmpty then "" else lines ["", "## Conditions", ""] ++ Condition.printAll ns

end Report

/-- The report of an analysis. -/
def Analysis.report (a : Analysis) : String :=
  lines (Report.heading a ++
      Report.sectionLines "Tables" ["| Name | Alias | Role |", "|------|-------|------|"]
        (a.tables.entries.map Report.tableRow) ++
      Report.sectionLines "Parameters" ["| Index | Marker | Name | Location |", "|-------|--------|------|----------|"]
        (a.parameters.map Report.parameterRow)) ++
    Report.conditionSection a.conditions ++
    lines (Report.sectionLines "Fields" ["| Column | Qualifier | Role |", "|--------|-----------|------|"]
      (a.fields.map Report.fieldRow))

end SqlTemplate
