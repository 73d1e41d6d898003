/-
What can go wrong with a statement: it does not parse, it uses a construct that is not analysed, it
cannot take the fragments to be merged, or a condition has the wrong number of operands.
-/
import SqlTemplate.Condition.Operator

namespace SqlTemplate

/-- A line and a column, both counted from one; columns count characters. -/
structure Location where
  line : Nat
  column : Nat
deriving DecidableEq

inductive Error where
  | parse (message : String) (location : Option Location)
  | unsupported (what : String)
  | unmergeable (why : String)
  | arity (operator : Condition.Operator) (expected : String) (found : Nat)
deriving DecidableEq

namespace Error

def message : Error → String
  | .parse m _ => "SQL parse error: " ++ m
  | .unsupported what => "unsupported construct: " ++ what
  | .unmergeable why => "cannot rewrite statement: " ++ why
  | .arity op expected found =>
    "operator " ++ op.text ++ " expects " ++ expected ++ " operand(s), found " ++ toString found

def isParseFailure : Error → Bool
  | .parse _ _ => true
  | _ => false

/-! ## Locations at the end of a message -/

/-- The text after the last occurrence of `mark` in `cs`. -/
def afterLast? (mark : List Char) : List Char → Option (List Char)
  | [] => none
  | c :: cs =>
    match afterLast? mark cs with
    | some rest => some rest
    | none => Text.dropStart? mark (c :: cs)

/-- The text before and after the first occurrence of `mark` in `cs`. -/
def splitFirst? (mark : List Char) : List Char → Option (List Char × List Char)
  | [] => none
  | c :: cs =>
    match Text.dropStart? mark (c :: cs) with
    | some rest => some ([], rest)
    | none => (splitFirst? mark cs).map fun p => (c :: p.1, p.2)

def digitsValue (cs : List Char) : Nat := cs.foldl (fun n c => n * 10 + (c.toNat - 48)) 0

/-- The first number that takes more than 64 bits. -/
def numberLimit : Nat := 18446744073709551616

/-- A decimal number of at most 64 bits; a plus sign may stand before its digits. -/
def number? (cs : List Char) : Option Nat :=
  let digits := (Text.dropStart? ['+'] cs).getD cs
  if digits.isEmpty || !digits.all Char.isDigit then none
  else if digitsValue digits < numberLimit then some (digitsValue digits) else none

/-- The place that a message ends with, as in `... at Line: 3, Column: 7`. -/
def locationIn (message : String) : Option Location := do
  let tail ← afterLast? "Line: ".toList message.toList
  let (line, column) ← splitFirst? ", Column: ".toList tail
  let l ← number? (Text.trimChars line)
  let c ← number? (column.takeWhile Char.isDigit)
  return ⟨l, c⟩

/-- A parse error whose place is read off its message. -/
def ofMessage (message : String) : Error := .parse message (locationIn message)

end Error

/-- How a place is written at the end of a message. -/
def Location.suffix (l : Location) : String :=
  " at Line: " ++ toString l.line ++ ", Column: " ++ toString l.column

/-- Whether a condition's operand count fits its operator. -/
def Condition.Operator.check (op : Condition.Operator) (width found : Nat) : Except Error Unit :=
  if op.arity.accepts width found then .ok () else .error (.arity op (op.arity.describe width) found)

end SqlTemplate
