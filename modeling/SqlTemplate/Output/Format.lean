/-
The two formats of output: lines of text, which for a whole analysis are a Markdown report, and
JSON.
-/
import SqlTemplate.Text.Chars

namespace SqlTemplate.Output

inductive Format where
  | text
  | json
deriving DecidableEq

namespace Format

def name : Format → String
  | .text => "text"
  | .json => "json"

/-- The format that a user's spelling names: blanks around it and the case of ASCII letters do not matter. -/
def ofName? (spelling : String) : Option Format :=
  match Text.lower (Text.trim spelling) with
  | "text" | "markdown" | "md" => some .text
  | "json" => some .json
  | _ => none

def invalidName (spelling : String) : String := "Invalid output format: " ++ spelling

end Format

end SqlTemplate.Output
