/-
Bind parameters of a token stream: the placeholder tokens, and `:name` where a colon stands in the
place of an operand. Parameters are numbered from one in textual order; the names of rewritten
`#{name}` placeholders come from the origins that the template's normalization recorded.
-/
import SqlTemplate.Template.Origin
import SqlTemplate.Token.Basic

namespace SqlTemplate

open Template (Origin)

namespace Parameter

/-- A placeholder as it stands in the text. -/
structure Marker where
  text : String
  location : Location
deriving DecidableEq

/-- Whether an operand ends with this token, so that a colon after it is an operator. -/
def endsOperand : Option Token → Bool
  | some (.word w) => w.quote.isSome || w.keyword.isNone
  | some (.number _ _) => true
  | some (.symbol s) => s == ")" || s == "]"
  | some (.placeholder _) => true
  | some (.string _) => true
  | some (.doubleQuoted _) => true
  | _ => false

/-- What a colon makes a marker with: the word or number directly after it. -/
def nameAfterColon? : List Lexeme → Option String
  | ⟨.word w, _⟩ :: _ => some w.text
  | ⟨.number text _, _⟩ :: _ => some text
  | _ => none

/-- The marker that begins with token `t`, after the operand or operator `previous` and before `rest`. -/
def marker? (previous : Option Token) (t : Lexeme) (rest : List Lexeme) : Option Marker :=
  match t.token with
  | .placeholder text => some ⟨text, t.location⟩
  | .symbol ":" =>
    if endsOperand previous then none else (nameAfterColon? rest).map fun name => ⟨":" ++ name, t.location⟩
  | _ => none

/-- The markers of a token stream whose last token that is no blank was `previous`. -/
def markersFrom (previous : Option Token) : List Lexeme → List Marker
  | [] => []
  | t :: rest =>
    (marker? previous t rest).toList ++ markersFrom (if t.token.isBlank then previous else some t.token) rest

def markers (tokens : List Lexeme) : List Marker := markersFrom none tokens

def count (tokens : List Lexeme) : Nat := (markers tokens).length

/-- Question marks are the markers that normalization records. -/
def Marker.isQuestion (m : Marker) : Bool := Text.startsWith m.text "?"

/-- The name in a marker such as `:id`. -/
def Marker.ownName? (m : Marker) : Option String :=
  match m.text.toList with
  | ':' :: name => some (String.ofList name)
  | _ => none

end Parameter

/-- One parameter: its place among all, its marker, its name if it has one, and where it stands. -/
structure Parameter where
  index : Nat
  marker : String
  name : Option String
  location : Location
deriving DecidableEq

namespace Parameter

/-- Parameters numbered from `index` on; each question mark takes the next origin. -/
def number (index : Nat) (origins : List Origin) : List Marker → List Parameter
  | [] => []
  | m :: ms =>
    if m.isQuestion then
      ⟨index, m.text, origins.head?.bind Origin.name?, m.location⟩ :: number (index + 1) origins.tail ms
    else ⟨index, m.text, m.ownName?, m.location⟩ :: number (index + 1) origins ms

/-- The parameters of a token stream. Origins give names only if there is one for every question mark. -/
def resolve (tokens : List Lexeme) (origins : List Origin) : List Parameter :=
  let ms := markers tokens
  let aligned := ms.countP Marker.isQuestion == origins.length
  number 1 (if aligned then origins else []) ms

/-- The parameter with a given number. -/
def get? (ps : List Parameter) (index : Nat) : Option Parameter :=
  if index = 0 then none else ps[index - 1]?

/-- Puts a parameter where its number belongs, unless there is one of that number. -/
def insertByIndex (p : Parameter) : List Parameter → List Parameter
  | [] => [p]
  | q :: qs =>
    if p.index < q.index then p :: q :: qs
    else if p.index = q.index then q :: qs
    else q :: insertByIndex p qs

/-- Parameters as a set, in which they are told apart by their numbers alone. -/
def asSet (ps : List Parameter) : List Parameter := ps.foldl (fun s p => insertByIndex p s) []

/-- One parameter to a line: number, marker, name, and place. -/
def print (p : Parameter) : String :=
  toString p.index ++ "\t" ++ p.marker ++ "\t" ++ p.name.getD "-" ++ "\t" ++ toString p.location.line ++ ":" ++
    toString p.location.column ++ "\n"

end Parameter

end SqlTemplate
