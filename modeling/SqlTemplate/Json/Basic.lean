/-
JSON values and their text: two spaces of indentation for each level, one entry to a line, nothing
but brackets for an empty array or object. Characters outside ASCII stand for themselves.
-/
import SqlTemplate.Text.Chars

namespace SqlTemplate

/-- A JSON value; a number is its text, an object its fields in order. -/
inductive Json where
  | null
  | bool (b : Bool)
  | number (text : String)
  | string (s : String)
  | array (items : List Json)
  | object (fields : List (String × Json))

namespace Json

def ofNat (n : Nat) : Json := .number (toString n)

def ofOption (s : Option String) : Json :=
  match s with
  | some s => .string s
  | none => .null

/-- A field that is left out when there is nothing to say. -/
def field? (name : String) (v : Option Json) : List (String × Json) :=
  match v with
  | some v => [(name, v)]
  | none => []

/-! ## Printing -/

def hexDigit (n : Nat) : Char := Char.ofNat (if n < 10 then 48 + n else 87 + n)

/-- A character as it stands between the quotes of a string. -/
def escapeChar (c : Char) : List Char :=
  if c == '"' then ['\\', '"']
  else if c == '\\' then ['\\', '\\']
  else if c == '\n' then ['\\', 'n']
  else if c == '\t' then ['\\', 't']
  else if c == '\r' then ['\\', 'r']
  else if c == '\x08' then ['\\', 'b']
  else if c == '\x0c' then ['\\', 'f']
  else if c.toNat < 32 then ['\\', 'u', '0', '0', hexDigit (c.toNat / 16), hexDigit (c.toNat % 16)]
  else [c]

def quoted (s : String) : String := "\"" ++ String.ofList (s.toList.flatMap escapeChar) ++ "\""

def indent (depth : Nat) : String := String.ofList (List.replicate (2 * depth) ' ')

/-- Lines between an opening and a closing bracket that stands at `depth`. -/
def bracketed (opening closing : String) (depth : Nat) (lines : List String) : String :=
  if lines.isEmpty then opening ++ closing
  else
    opening ++ "\n" ++ Text.join ",\n" (lines.map fun l => indent (depth + 1) ++ l) ++ "\n" ++ indent depth ++ closing

mutual

/-- The text of a value whose first character stands at `depth`. -/
def printAt (depth : Nat) : Json → String
  | .null => "null"
  | .bool b => if b then "true" else "false"
  | .number text => text
  | .string s => quoted s
  | .array items => bracketed "[" "]" depth (printItems (depth + 1) items)
  | .object fields => bracketed "\x7b" "\x7d" depth (printFields (depth + 1) fields)

def printItems (depth : Nat) : List Json → List String
  | [] => []
  | v :: vs => printAt depth v :: printItems depth vs

def printFields (depth : Nat) : List (String × Json) → List String
  | [] => []
  | (name, v) :: rest => (quoted name ++ ": " ++ printAt depth v) :: printFields depth rest

end

def print (v : Json) : String := printAt 0 v

end Json

end SqlTemplate
