/-
The names by which a statement refers to its relations. A join may not bring in a name that is
already taken.
-/
import SqlTemplate.Name
import SqlTemplate.Tree.Basic

namespace SqlTemplate

/-- The keys of a table without an alias: its name and, if that is qualified, its last part. -/
def nameBindings (name : ObjectName) : List String :=
  let parts := Name.parts name.print
  Name.objectKey name.print :: (if parts.length > 1 then (parts.getLast?.map Name.key).toList else [])

def TableAlias.binding (a : TableAlias) : String := Name.key a.name.print

mutual

/-- The keys that a relation can be referred to by: that of its alias, else those of its name. -/
def Factor.bindings : Factor → List String
  | .table _ (some a) _ _ => [a.binding]
  | .table name none _ _ => nameBindings name
  | .tableCall _ _ (some a) _ _ => [a.binding]
  | .tableCall name _ none _ _ => nameBindings name
  | .derived _ _ aliasName => (aliasName.map TableAlias.binding).toList
  | .nested _ (some a) => [a.binding]
  | .nested t none => t.bindings
  | .computed _ _ _ => []
  | .turned _ _ _ => []

def TableTree.bindings : TableTree → List String
  | ⟨relation, joins⟩ => relation.bindings ++ Join.bindingsList joins

def Join.bindings : Join → List String
  | ⟨_, _, relation, _, _, _⟩ => relation.bindings

def Join.bindingsList : List Join → List String
  | [] => []
  | j :: js => j.bindings ++ Join.bindingsList js

end

def treeBindings (trees : List TableTree) : List String := trees.flatMap TableTree.bindings

namespace Merge

def alreadyBound (key : String) : Error :=
  .unmergeable ("join binds `" ++ key ++ "`, which is already bound in the statement")

/-- Adds keys one by one to those that are bound; one that is there already is an error. -/
def bind (bound : List String) : List String → Except Error (List String)
  | [] => .ok bound
  | k :: ks => if bound.contains k then .error (alreadyBound k) else bind (bound ++ [k]) ks

end Merge

end SqlTemplate
