/-
Condition trees. A leaf is one comparison or test with its operator; a group combines the conditions
below it by AND or OR, or negates one. Every node sums up what it holds.
-/
import SqlTemplate.Error

namespace SqlTemplate.Condition

/-- What a node says about itself: where it stands, the columns it refers to, the operand values and
placeholders it has, and its text. -/
structure Summary where
  position : Position
  columns : List String
  operands : Nat
  parameters : Nat
  sql : String
deriving DecidableEq

inductive Node where
  | leaf (operator : Operator) (summary : Summary)
  | group (connective : Connective) (summary : Summary) (children : List Node)

namespace Node

def summary : Node → Summary
  | .leaf _ s => s
  | .group _ s _ => s

def operator? : Node → Option Operator
  | .leaf op _ => some op
  | .group _ _ _ => none

def connective? : Node → Option Connective
  | .leaf _ _ => none
  | .group c _ _ => some c

def kind : Node → Kind
  | .leaf op _ => op.kind
  | .group _ _ _ => .complex

def children : Node → List Node
  | .leaf _ _ => []
  | .group _ _ cs => cs

def isGroup : Node → Bool
  | .leaf _ _ => false
  | .group _ _ _ => true

end Node

mutual

/-- The nodes without nodes below them, from left to right. -/
def Node.leaves : Node → List Node
  | .leaf op s => [.leaf op s]
  | .group c s [] => [.group c s []]
  | .group _ _ (n :: ns) => n.leaves ++ Node.leavesList ns

def Node.leavesList : List Node → List Node
  | [] => []
  | n :: ns => n.leaves ++ Node.leavesList ns

end

end SqlTemplate.Condition
