/-
Forms: expressions with a spelling of their own that are neither operators nor plain calls, such as
`EXTRACT(YEAR FROM a)` or `a AT TIME ZONE b`. A form is known by its kind, which holds all that is
not an expression, and by its argument expressions; `Form.render` puts printed arguments into place.
-/
import SqlTemplate.Tree.Value

namespace SqlTemplate

/-! ## Phrases -/

/-- A piece of a phrase: words as they are printed, or the place of the next expression. -/
inductive Phrase.Piece where
  | words (text : String)
  | expr
deriving DecidableEq

abbrev Phrase := List Phrase.Piece

namespace Phrase

/-- Phrases with commas between them. -/
def commas : List Phrase → Phrase
  | [] => []
  | [p] => p
  | p :: ps => p ++ .words ", " :: commas ps

/-- The phrase with printed expressions in their places, and the expressions after those that it takes. -/
def render : Phrase → List String → String × List String
  | [], args => ("", args)
  | .words text :: pieces, args =>
    let (rest, args) := render pieces args
    (text ++ rest, args)
  | .expr :: pieces, args =>
    let (rest, left) := render pieces (args.drop 1)
    (args.headD "" ++ rest, left)

end Phrase

/-! ## Forms -/

/-- One step of an access chain: a field, an index, or a slice with the bounds that are present. -/
inductive Access where
  | field
  | index
  | slice (lower upper stride : Bool)
deriving DecidableEq

inductive Form where
  | typed (type : DataType) (v : Value)
  | interval (unit : String)
  | extract (field : String) (comma : Bool)
  | rounding (name : String) (scale : String)
  | position
  | substring (name : String) (commas start length : Bool)
  | overlay (length : Bool)
  | trim (side : String) (what : Bool)
  | trimChars
  | convert (name : String) (type : DataType) (charset : Option ObjectName) (typeFirst : Bool)
  | convertUsing (name : String) (charset : ObjectName)
  | collate (name : ObjectName)
  | atTimeZone
  | array (named : Bool)
  | struct (fields : List String)
  | dictionary (keys : List Ident)
  | map
  | outerJoined
  | prior
  | aliased (name : Ident)
  | access (steps : List Access)
  | introduced (charset : Ident) (v : Value)
  | normalized (negated : Bool) (form : String)
  | memberOf
  | inUnnest (negated : Bool)
  | matchAgainst (columns : List ObjectName) (v : Value) (modifier : String)
  | grouping (name : String) (lifted : Bool) (sizes : List Nat)
  | wildcard (table : Option ObjectName)
deriving DecidableEq

namespace Form

/-- `text`, if the part is there. -/
def optional (present : Bool) (text : String) : String := if present then text else ""

/-- The bounds of a slice, and the arguments after them. -/
def renderSlice (lower upper stride : Bool) (args : List String) : String × List String :=
  let (l, args) := take lower args
  let (u, args) := take upper args
  let (s, args) := take stride args
  ("[" ++ l ++ ":" ++ u ++ optional stride (":" ++ s) ++ "]", args)
where
  take (present : Bool) (args : List String) : String × List String :=
    match present, args with
    | true, a :: rest => (a, rest)
    | _, rest => ("", rest)

def renderSteps : List Access → List String → String
  | .field :: steps, a :: args => "." ++ a ++ renderSteps steps args
  | .index :: steps, a :: args => "[" ++ a ++ "]" ++ renderSteps steps args
  | .slice l u s :: steps, args =>
    let (text, rest) := renderSlice l u s args
    text ++ renderSteps steps rest
  | _, _ => ""

/-- Groups of the given sizes in parentheses; with `lifted`, one expression alone goes without. -/
def renderGroups (lifted : Bool) : List Nat → List String → List String
  | [], _ => []
  | n :: sizes, args =>
    let items := Text.commas (args.take n)
    (if lifted && n == 1 then items else "(" ++ items ++ ")") :: renderGroups lifted sizes (args.drop n)

/-- Keys and values, one after the other, in pairs. -/
def renderEntries : List String → List String
  | k :: v :: rest => (k ++ ": " ++ v) :: renderEntries rest
  | _ => []

/-- The printed form, given its printed arguments. -/
def render (f : Form) (args : List String) : String :=
  match f, args with
  | .typed t v, _ => t.text ++ " " ++ v.print
  | .interval unit, a :: _ => "INTERVAL " ++ a ++ unit
  | .extract field comma, a :: _ => "EXTRACT(" ++ field ++ (if comma then ", " else " FROM ") ++ a ++ ")"
  | .rounding name scale, a :: _ => name ++ "(" ++ a ++ scale ++ ")"
  | .position, a :: b :: _ => "POSITION(" ++ a ++ " IN " ++ b ++ ")"
  | .substring name commas start length, a :: rest =>
    let sep (word : String) := if commas then ", " else word
    let first := match start, rest with | true, b :: _ => sep " FROM " ++ b | _, _ => ""
    let rest := if start then rest.drop 1 else rest
    let second := match length, rest with | true, b :: _ => sep " FOR " ++ b | _, _ => ""
    name ++ "(" ++ a ++ first ++ second ++ ")"
  | .overlay length, a :: b :: c :: rest =>
    "OVERLAY(" ++ a ++ " PLACING " ++ b ++ " FROM " ++ c ++
      (match length, rest with | true, d :: _ => " FOR " ++ d | _, _ => "") ++ ")"
  | .trim side true, what :: a :: _ => "TRIM(" ++ side ++ what ++ " FROM " ++ a ++ ")"
  | .trim side false, a :: _ => "TRIM(" ++ side ++ a ++ ")"
  | .trimChars, a :: rest => "TRIM(" ++ a ++ ", " ++ Text.commas rest ++ ")"
  | .convert name t charset typeFirst, a :: styles =>
    name ++ "(" ++
      (match charset with
       | some c => a ++ ", " ++ t.text ++ " CHARACTER SET " ++ c.print
       | none => if typeFirst then t.text ++ ", " ++ a else a ++ ", " ++ t.text) ++
      optional (!styles.isEmpty) (", " ++ Text.commas styles) ++ ")"
  | .convertUsing name charset, a :: _ => name ++ "(" ++ a ++ " USING " ++ charset.print ++ ")"
  | .collate name, a :: _ => a ++ " COLLATE " ++ name.print
  | .atTimeZone, a :: b :: _ => a ++ " AT TIME ZONE " ++ b
  | .array named, items => optional named "ARRAY" ++ "[" ++ Text.commas items ++ "]"
  | .aliased name, a :: _ => a ++ " AS " ++ name.print
  | .struct fields, items =>
    "STRUCT" ++ optional (!fields.isEmpty) ("<" ++ Text.commas fields ++ ">") ++ "(" ++ Text.commas items ++ ")"
  | .dictionary keys, items =>
    "\x7b" ++ Text.commas (List.zipWith (fun k v => Ident.print k ++ ": " ++ v) keys items) ++ "\x7d"
  | .map, items => "MAP \x7b" ++ Text.commas (renderEntries items) ++ "\x7d"
  | .outerJoined, a :: _ => a ++ " (+)"
  | .prior, a :: _ => "PRIOR " ++ a
  | .access steps, root :: rest => root ++ renderSteps steps rest
  | .introduced charset v, _ => charset.print ++ " " ++ v.print
  | .normalized negated form, a :: _ => a ++ " IS " ++ optional negated "NOT " ++ form ++ "NORMALIZED"
  | .memberOf, a :: b :: _ => a ++ " MEMBER OF(" ++ b ++ ")"
  | .inUnnest negated, a :: b :: _ => a ++ optional negated " NOT" ++ " IN UNNEST(" ++ b ++ ")"
  | .matchAgainst columns v modifier, _ =>
    "MATCH (" ++ Text.commas (columns.map ObjectName.print) ++ ") AGAINST (" ++ v.print ++ modifier ++ ")"
  | .grouping name lifted sizes, items => name ++ " (" ++ Text.commas (renderGroups lifted sizes items) ++ ")"
  | .wildcard table, _ => (match table with | some t => t.print ++ "." | none => "") ++ "*"
  | _, _ => ""

end Form

end SqlTemplate
