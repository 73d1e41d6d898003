/-
Merging: extra joins and an extra predicate become part of a statement. Joins go after the existing
ones, a predicate is conjoined to WHERE. The result is printed and has to parse again.
-/
import SqlTemplate.Merge.Attach

namespace SqlTemplate

namespace Merge

open Template (Parsed parse parseSingle tokenize)

/-- What is to be merged into a statement. -/
structure Additions where
  joins : List Join
  joinMarkers : Nat
  predicate : Option Expr
  predicateMarkers : Nat

def readAdditions (c : Config) (join predicate : Option String) : Except Error Additions := do
  let js ← match join with | some text => joinFragment c text | none => pure ⟨[], 0⟩
  match predicate with
  | none => return ⟨js.content, js.markers, none, 0⟩
  | some text =>
    let p ← predicateFragment c text
    return ⟨js.content, js.markers, some p.content, p.markers⟩

/-- New placeholders come after all of the statement's own. -/
def checkMarkers (total : Nat) (a : AttachPoint) (adds : Additions) : Except Error Unit := do
  if 0 < adds.joinMarkers && a.beforeJoins < total then
    throw (.unmergeable "join fragment placeholders would renumber the statement's existing parameters")
  if 0 < adds.predicateMarkers && a.throughWhere < total then
    throw (.unmergeable "predicate placeholders would renumber parameters that follow the WHERE clause")

/-- The statement with the joins, if there are any and it can take them. -/
def withJoins (a : AttachPoint) (joins : List Join) (st : Statement) : Except Error Statement :=
  if joins.isEmpty then .ok st
  else
    match a.slot with
    | .refuse why => .error (.unmergeable why)
    | slot => .ok (addJoins joins slot st)

def withPredicate (predicate : Option Expr) (st : Statement) : Statement :=
  match predicate with
  | none => st
  | some e => addPredicate e st

/-- The merged statement, of a statement with `total` placeholders. -/
def build (c : Config) (total : Nat) (st : Statement) (adds : Additions) : Except Error Statement := do
  let a ← attachPoint c st
  checkMarkers total a adds
  discard (bind a.bound (Join.bindingsList adds.joins))
  return withPredicate adds.predicate (← withJoins a adds.joins st)

/-- Puts what a step was doing before its error. -/
def explain {α : Type} (what : String) (r : Except Error α) : Except Error α :=
  match r with
  | .ok a => .ok a
  | .error e => .error (.unmergeable (what ++ ": " ++ e.message))

end Merge

/-- A template with joins and a predicate merged into it. -/
def merge (c : Config) (template : String) (join predicate : Option String) : Except Error String := do
  let parsed ← Merge.explain "original statement does not parse" (Template.parse c template)
  let total := Parameter.count (← Template.tokenize c parsed.normalized.text)
  let adds ← Merge.readAdditions c join predicate
  let merged ← Merge.build c total parsed.statement adds
  let text := merged.print
  discard (Merge.explain "merged statement does not re-parse" (Template.parseSingle c text))
  return text

end SqlTemplate
