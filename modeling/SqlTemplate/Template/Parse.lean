/-
Reading a template: its named placeholders are replaced, if the configuration says so, and the
result has to be exactly one statement.
-/
import SqlTemplate.Grammar.Statement
import SqlTemplate.Template.Origin

namespace SqlTemplate

/-- How templates are read. -/
structure Config where
  dialect : Dialect
  namedPlaceholders : Bool
deriving DecidableEq

/-- What is meant when nothing is configured. -/
def Config.standard : Config := ⟨.default, true⟩

namespace Template

/-- A template as the grammar saw it. -/
structure Parsed where
  normalized : Normalized
  statement : Statement

/-- The statement that a normalized text is. -/
def parseSingle (c : Config) (text : String) : Except Error Statement := do
  match ← parseStatements c.dialect text with
  | [] => throw (.ofMessage "no SQL statement found")
  | [s] => return s
  | ss => throw (.unsupported ("expected a single statement, found " ++ toString ss.length))

/-- The text that the grammar is to see. -/
def prepare (c : Config) (template : String) : Normalized :=
  if c.namedPlaceholders then normalize c.dialect template
  else ⟨template, positionalOrigins c.dialect template⟩

def parse (c : Config) (template : String) : Except Error Parsed := do
  let normalized := prepare c template
  return ⟨normalized, ← parseSingle c normalized.text⟩

/-- The tokens of a normalized text. -/
def tokenize (c : Config) (text : String) : Except Error (List Lexeme) := Lexer.tokenize c.dialect text

end Template

end SqlTemplate
