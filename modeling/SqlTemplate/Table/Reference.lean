/-
Tables as a statement refers to them: a name and an alias as written, and the role that the table
plays. References are the same when the keys of their names and aliases agree; a set of them keeps
the first reference of each key, in the order in which they came.
-/
import SqlTemplate.Name

namespace SqlTemplate.Table

/-- How a table takes part in a statement. -/
inductive Role where
  | main
  | join
  | subquery
deriving DecidableEq

namespace Role

def text : Role → String
  | .main => "MAIN"
  | .join => "JOIN"
  | .subquery => "SUBQUERY"

def ofText? (text : String) : Option Role := [main, join, subquery].find? (·.text == text)

end Role

structure Reference where
  name : String
  aliasName : Option String
  role : Role
deriving DecidableEq

/-- What references are compared by: the key of the name and that of the alias. -/
abbrev Key := String × Option String

def keyOf (name : String) (aliasName : Option String) : Key := (Name.objectKey name, aliasName.map Name.key)

namespace Reference

def key (r : Reference) : Key := keyOf r.name r.aliasName

def print (r : Reference) : String :=
  match r.aliasName with
  | some a => r.name ++ " AS " ++ a ++ " (" ++ r.role.text ++ ")"
  | none => r.name ++ " (" ++ r.role.text ++ ")"

end Reference

/-! ## Sets -/

structure Set where
  entries : List Reference
deriving DecidableEq

namespace Set

def empty : Set := ⟨[]⟩

def isEmpty (s : Set) : Bool := s.entries.isEmpty

def get? (s : Set) (k : Key) : Option Reference := s.entries.find? (·.key == k)

def contains (s : Set) (k : Key) : Bool := (s.get? k).isSome

/-- The set with `r` after its other entries, unless its key is already there. -/
def insert (s : Set) (r : Reference) : Set := if s.contains r.key then s else ⟨s.entries ++ [r]⟩

/-- The set with `r`, and whether `r` was added to it. -/
def insertNew (s : Set) (r : Reference) : Bool × Set :=
  if s.contains r.key then (false, s) else (true, ⟨s.entries ++ [r]⟩)

/-- The entries of `s`, then those of `t` whose keys are new. -/
def union (s t : Set) : Set := t.entries.foldl insert s

def ofList (rs : List Reference) : Set := rs.foldl insert empty

def withRole (s : Set) (role : Role) : List Reference := s.entries.filter (·.role == role)

/-- One reference to a line. -/
def print (s : Set) : String := String.join (s.entries.map fun r => r.print ++ "\n")

end Set

end SqlTemplate.Table
