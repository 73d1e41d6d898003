/-
What can be asked about a template, and the answers, each of which can be shown as text or as JSON.
-/
import SqlTemplate.Merge.Basic
import SqlTemplate.Output.Encode
import SqlTemplate.Output.Format
import SqlTemplate.Output.Markdown

namespace SqlTemplate

open Output (Format)

inductive Request where
  | normalize
  | kind
  | tables
  | parameters
  | conditions
  | fields
  | analyze
  | merge (join predicate : Option String)
deriving DecidableEq

inductive Answer where
  | normalized (text : String)
  | kind (kind : Kind)
  | tables (tables : Table.Set)
  | parameters (parameters : List Parameter)
  | conditions (conditions : List Condition.Node)
  | fields (fields : List Field)
  | analysis (analysis : Analysis)
  | merged (text : String)

/-- The answer to a request about a template. Normalizing cannot fail, and it replaces named
placeholders whatever the configuration says of them. -/
def Request.answer (c : Config) (template : String) : Request → Except Error Answer
  | .normalize => return .normalized (Template.normalize c.dialect template).text
  | .kind => return .kind (← Template.kind c template)
  | .tables => return .tables (← Template.tables c template)
  | .parameters => return .parameters (← Template.parameters c template)
  | .conditions => return .conditions (← Template.conditions c template)
  | .fields => return .fields (← Template.fields c template)
  | .analyze => return .analysis (← Template.analyze c template)
  | .merge join predicate => return .merged (← SqlTemplate.merge c template join predicate)

namespace Answer

def toJson : Answer → Json
  | .normalized text => .string text
  | .kind k => .string k.text
  | .tables s => s.toJson
  | .parameters ps => .array (ps.map Parameter.toJson)
  | .conditions ns => .array (Condition.Node.toJsonList ns)
  | .fields fs => .array (fs.map Field.toJson)
  | .analysis a => a.toJson
  | .merged text => .string text

def toText : Answer → String
  | .normalized text => text
  | .kind k => k.text
  | .tables s => s.print
  | .parameters ps => Parameter.printAll ps
  | .conditions ns => Condition.printAll ns
  | .fields fs => Field.printAll fs
  | .analysis a => a.report
  | .merged text => text

/-- Whether the text of an answer is one piece and not a list of lines, each with its own end. -/
def isPiece : Answer → Bool
  | .normalized _ | .kind _ | .merged _ => true
  | _ => false

def render (a : Answer) : Format → String
  | .text => a.toText
  | .json => a.toJson.print

/-- An answer with the end of its last line. -/
def renderLines (a : Answer) (f : Format) : String :=
  if f == .json || a.isPiece then a.render f ++ "\n" else a.render f

end Answer

end SqlTemplate
