/-
Settings kept as JSON: an object with the fields `dialect` and `named_placeholders`, each of which
may be absent, or an array with their values in that order.
-/
import SqlTemplate.Json.Read
import SqlTemplate.Template.Parse

namespace SqlTemplate.Config

/-- A dialect by its canonical name, alone or as the only field of an object. -/
def dialect? : Json → Option Dialect
  | .string s => Dialect.ofCanonical? s
  | .object [(name, .null)] => Dialect.ofCanonical? name
  | _ => none

def bool? : Json → Option Bool
  | .bool b => some b
  | _ => none

/-- The value of a field that may be given once at most. -/
def once {α : Type} (read? : Json → Option α) (absent : α) (given : List Json) : Option α :=
  match given with
  | [] => some absent
  | [v] => read? v
  | _ => none

def fieldNames : List String := ["dialect", "named_placeholders"]

def given (name : String) (fields : List (String × Json)) : List Json :=
  (fields.filter (·.1 == name)).map Prod.snd

def ofJson? : Json → Option Config
  | .object fields => do
    if fields.all fun f => fieldNames.contains f.1 then
      let d ← once dialect? standard.dialect (given "dialect" fields)
      let n ← once bool? standard.namedPlaceholders (given "named_placeholders" fields)
      return ⟨d, n⟩
    else none
  | .array [] => some standard
  | .array [d] => do return { standard with dialect := ← dialect? d }
  | .array [d, n] => do return ⟨← dialect? d, ← bool? n⟩
  | _ => none

def read? (text : String) : Option Config := do ofJson? (← Json.read? text)

/-- What is said of a text that holds no settings. -/
def invalidText : String := "Invalid analyzer config JSON: "

end SqlTemplate.Config
