/-
The fragments that are merged into a statement: joins, and a predicate. A fragment is read in place,
after a table or after WHERE; it is accepted if the statement read prints as nothing but the
fragment in its place, and if its conditions can be classified.
-/
import SqlTemplate.Condition.Classify
import SqlTemplate.Parameter
import SqlTemplate.Template.Parse

namespace SqlTemplate.Merge

open Template (prepare parseSingle tokenize)

/-- The table that fragments are read after. -/
def anchor : String := "__sqlsift_anchor__"

/-- Something read from a fragment, and the number of placeholders in it. -/
structure Counted (α : Type) where
  content : α
  markers : Nat

def fragmentText (c : Config) (fragment : String) : String := (prepare c (Text.trim fragment)).text

def parseFragment (c : Config) (kind anchored : String) : Except Error Statement :=
  match parseSingle c anchored with
  | .ok s => .ok s
  | .error e => .error (.unmergeable (kind ++ " fragment does not parse: " ++ e.message))

def countMarkers (c : Config) (text : String) : Except Error Nat := do
  return Parameter.count (← tokenize c text)

/-! ## Joins -/

/-- The joins after the only relation of a SELECT. -/
def anchoredJoins : Statement → List Join
  | .query ⟨_, _, .select s, _⟩ =>
    match s.tables with
    | [t] => t.joins
    | _ => []
  | _ => []

/-- The conditions of joins have to be ones that can be classified. -/
def checkJoins : List Join → Except Error Unit
  | [] => .ok ()
  | j :: js =>
    match if j.operator.hasCondition then j.condition else none with
    | none => checkJoins js
    | some on =>
      match Condition.classify .joinOn on with
      | .ok _ => checkJoins js
      | .error e => .error (.unmergeable ("join condition `" ++ on.print ++ "`: " ++ e.message))

def notOnlyJoins (text : String) : Error :=
  .unmergeable ("join fragment must contain only JOIN clauses: `" ++ text ++ "`")

def joinFragment (c : Config) (fragment : String) : Except Error (Counted (List Join)) := do
  let text := fragmentText c fragment
  let st ← parseFragment c "join" ("SELECT * FROM " ++ anchor ++ " " ++ text)
  let joins := anchoredJoins st
  let rebuilt := "SELECT * FROM " ++ anchor ++ spacedAll (Join.printList joins)
  if joins.isEmpty || st.print != rebuilt then throw (notOnlyJoins text)
  checkJoins joins
  return ⟨joins, ← countMarkers c text⟩

/-! ## Predicates -/

def anchoredPredicate? : Statement → Option Expr
  | .query ⟨_, _, .select s, _⟩ => s.selection
  | _ => none

def notOnePredicate (text : String) : Error :=
  .unmergeable ("predicate fragment must be a single boolean expression: `" ++ text ++ "`")

def predicateFragment (c : Config) (fragment : String) : Except Error (Counted Expr) := do
  let text := fragmentText c fragment
  let st ← parseFragment c "predicate" ("SELECT * FROM " ++ anchor ++ " WHERE " ++ text)
  match anchoredPredicate? st with
  | none => throw (notOnePredicate text)
  | some e =>
    if st.print != "SELECT * FROM " ++ anchor ++ " WHERE " ++ e.print then throw (notOnePredicate text)
    match Condition.classify .where_ e with
    | .error err => throw (.unmergeable ("predicate `" ++ e.print ++ "`: " ++ err.message))
    | .ok _ => return ⟨e, ← countMarkers c text⟩

end SqlTemplate.Merge
