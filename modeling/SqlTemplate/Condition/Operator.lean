/-
The operators that a leaf condition can have, with the number of operand values each of them takes
and the type of condition it makes. Operand counts are per row: when the compared side is a row of
`width` columns, an operator that takes `n` operands takes `n * width` values.
-/
import SqlTemplate.Text.Chars

namespace SqlTemplate.Condition

/-- The clause that a condition stands in. -/
inductive Position where
  | where_
  | joinOn
  | having
  | insertValues
  | updateSet
deriving DecidableEq

namespace Position

def text : Position → String
  | .where_ => "WHERE"
  | .joinOn => "JOIN_ON"
  | .having => "HAVING"
  | .insertValues => "INSERT_VALUES"
  | .updateSet => "UPDATE_SET"

def ofText? (text : String) : Option Position :=
  [where_, joinOn, having, insertValues, updateSet].find? (·.text == text)

end Position

inductive Kind where
  | simple
  | complex
  | in_
  | between
  | like
  | exists_
  | isNull
  | isNotNull
deriving DecidableEq

def Kind.text : Kind → String
  | .simple => "SIMPLE"
  | .complex => "COMPLEX"
  | .in_ => "IN"
  | .between => "BETWEEN"
  | .like => "LIKE"
  | .exists_ => "EXISTS"
  | .isNull => "IS_NULL"
  | .isNotNull => "IS_NOT_NULL"

inductive Connective where
  | and
  | or
  | not
deriving DecidableEq

def Connective.text : Connective → String
  | .and => "AND"
  | .or => "OR"
  | .not => "NOT"

/-- How many operand values an operator takes for each compared column. -/
inductive Arity where
  | exactly (count : Nat)
  | variadic
deriving DecidableEq

namespace Arity

/-- Whether `found` values are right for a compared row of `width` columns. -/
def accepts (a : Arity) (width found : Nat) : Bool :=
  match a with
  | .exactly n => found == n * width
  | .variadic => width == 0 || found % width == 0

/-- The number of values that would be right, in words. -/
def describe (a : Arity) (width : Nat) : String :=
  match a with
  | .exactly n => toString (n * width)
  | .variadic => if width ≤ 1 then "any number of" else "a multiple of " ++ toString width

end Arity

inductive Operator where
  | eq
  | notEq
  | lt
  | gt
  | ltEq
  | gtEq
  | nullSafeEq
  | isDistinctFrom
  | isNotDistinctFrom
  | like
  | notLike
  | iLike
  | notILike
  | similarTo
  | notSimilarTo
  | regexp
  | notRegexp
  | in_
  | notIn
  | between
  | notBetween
  | isNull
  | isNotNull
  | isTrue
  | isNotTrue
  | isFalse
  | isNotFalse
  | exists_
  | notExists
deriving DecidableEq

namespace Operator

def all : List Operator :=
  [eq, notEq, lt, gt, ltEq, gtEq, nullSafeEq, isDistinctFrom, isNotDistinctFrom, like, notLike, iLike, notILike,
    similarTo, notSimilarTo, regexp, notRegexp, in_, notIn, between, notBetween, isNull, isNotNull, isTrue,
    isNotTrue, isFalse, isNotFalse, exists_, notExists]

def text : Operator → String
  | .eq => "="
  | .notEq => "!="
  | .lt => "<"
  | .gt => ">"
  | .ltEq => "<="
  | .gtEq => ">="
  | .nullSafeEq => "<=>"
  | .isDistinctFrom => "IS DISTINCT FROM"
  | .isNotDistinctFrom => "IS NOT DISTINCT FROM"
  | .like => "LIKE"
  | .notLike => "NOT LIKE"
  | .iLike => "ILIKE"
  | .notILike => "NOT ILIKE"
  | .similarTo => "SIMILAR TO"
  | .notSimilarTo => "NOT SIMILAR TO"
  | .regexp => "REGEXP"
  | .notRegexp => "NOT REGEXP"
  | .in_ => "IN"
  | .notIn => "NOT IN"
  | .between => "BETWEEN"
  | .notBetween => "NOT BETWEEN"
  | .isNull => "IS NULL"
  | .isNotNull => "IS NOT NULL"
  | .isTrue => "IS TRUE"
  | .isNotTrue => "IS NOT TRUE"
  | .isFalse => "IS FALSE"
  | .isNotFalse => "IS NOT FALSE"
  | .exists_ => "EXISTS"
  | .notExists => "NOT EXISTS"

def arity : Operator → Arity
  | .in_ | .notIn => .variadic
  | .between | .notBetween => .exactly 2
  | .isNull | .isNotNull | .isTrue | .isNotTrue | .isFalse | .isNotFalse | .exists_ | .notExists => .exactly 0
  | _ => .exactly 1

def kind : Operator → Kind
  | .like | .notLike | .iLike | .notILike | .similarTo | .notSimilarTo | .regexp | .notRegexp => .like
  | .in_ | .notIn => .in_
  | .between | .notBetween => .between
  | .isNull => .isNull
  | .isNotNull => .isNotNull
  | .exists_ | .notExists => .exists_
  | _ => .simple

/-- The operator's text in one form: words divided by single spaces, in upper case. -/
def canonical (text : String) : String :=
  Text.upper (Text.join " " ((Text.wordsOf text.toList).map String.ofList))

/-- The operator that a user's spelling names; `<>`, `RLIKE` and `NOT RLIKE` are other spellings. -/
def ofText? (text : String) : Option Operator :=
  match canonical text with
  | "<>" => some .notEq
  | "RLIKE" => some .regexp
  | "NOT RLIKE" => some .notRegexp
  | t => all.find? (·.text == t)

def invalidText (text : String) : String := "Invalid operator: " ++ text

end Operator

end SqlTemplate.Condition
