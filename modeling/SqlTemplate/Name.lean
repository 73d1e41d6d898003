/-
Names as they are written in SQL: quoted or plain identifiers, and qualified names whose parts are
divided by dots outside quotes. Two names denote the same object when their keys are equal: a plain
identifier is keyed by its ASCII lower case, a quoted one by the text between its quotes.
-/
import SqlTemplate.Text.Chars

namespace SqlTemplate.Name

/-! ## One identifier -/

/-- The closing quote that belongs to an opening one. -/
def closing? (c : Char) : Option Char :=
  if c == '"' || c == '\x60' then some c else if c == '[' then some ']' else none

/-- The text between the quotes of an identifier, if it is wrapped in a pair of them. -/
def inner? (cs : List Char) : Option (List Char) :=
  match cs with
  | [] => none
  | first :: rest =>
    match rest.getLast? with
    | none => none
    | some last => if closing? first == some last then some rest.dropLast else none

def isQuoted (ident : String) : Bool := (inner? (Text.trimChars ident.toList)).isSome

/-- The identifier without blanks around it and without its quotes. -/
def unquote (ident : String) : String :=
  let cs := Text.trimChars ident.toList
  String.ofList ((inner? cs).getD cs)

/-- What an identifier is compared by. -/
def key (ident : String) : String :=
  let cs := Text.trimChars ident.toList
  match inner? cs with
  | some inner => String.ofList inner
  | none => String.ofList (cs.map Char.toLower)

/-! ## Qualified names -/

/-- Cuts at the dots outside quotes; `closer` is the quote that would close the current one. -/
def splitChars : Option Char → List Char → List (List Char)
  | _, [] => [[]]
  | closer, c :: cs =>
    match closer with
    | some q => consHead c (splitChars (if c == q then none else some q) cs)
    | none => if c == '.' then [] :: splitChars none cs else consHead c (splitChars (closing? c) cs)
where
  consHead (c : Char) : List (List Char) → List (List Char)
    | [] => [[c]]
    | p :: ps => (c :: p) :: ps

/-- The parts of a qualified name, without blanks around them. -/
def parts (name : String) : List String :=
  (splitChars none name.toList).map fun p => String.ofList (Text.trimChars p)

/-- What a qualified name is compared by: the keys of its parts, joined by dots. -/
def objectKey (name : String) : String := Text.join "." ((parts name).map key)

/-- A column reference as qualifier, if there is one, and column. -/
def splitColumn (reference : String) : Option String × String :=
  let ps := parts reference
  match ps.dropLast, ps.getLast? with
  | q :: qs, some column => (some (Text.join "." (q :: qs)), column)
  | _, _ => (none, Text.trim reference)

end SqlTemplate.Name
