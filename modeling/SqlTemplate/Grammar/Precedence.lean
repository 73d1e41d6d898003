/-
Binding strengths of the infix operators. A token's strength tells the expression grammar whether
the token continues the expression at hand; strength zero means that it does not.
-/
import SqlTemplate.Grammar.Basic

namespace SqlTemplate.Grammar

open SqlTemplate.Grammar.Parser

/-- Classes of operators, by how tightly they bind. -/
inductive Strength where
  | period
  | doubleColon
  | atTimeZone
  | multiplicative
  | additive
  | xor
  | ampersand
  | caret
  | pipe
  | between
  | equality
  | like
  | is
  | arrow
  | unaryNot
  | and
  | or
  | collate
  | bracket
  | none
deriving DecidableEq

namespace Strength

/-- The strengths of most dialects. -/
def common : Strength → Nat
  | .period => 100
  | .doubleColon => 50
  | .atTimeZone => 41
  | .multiplicative => 40
  | .additive => 30
  | .xor => 24
  | .ampersand => 23
  | .caret => 22
  | .pipe => 21
  | .between => 20
  | .equality => 20
  | .like => 19
  | .is => 17
  | .arrow => 16
  | .unaryNot => 15
  | .and => 10
  | .or => 5
  | .collate => 0
  | .bracket => 50
  | .none => 0

/-- The strengths of a dialect whose comparisons bind more loosely than its pattern operators. -/
def postgresql : Strength → Nat
  | .period => 200
  | .doubleColon => 140
  | .bracket => 130
  | .collate => 120
  | .atTimeZone => 110
  | .caret => 100
  | .multiplicative => 90
  | .additive => 80
  | .xor => 75
  | .ampersand => 70
  | .pipe => 70
  | .arrow => 70
  | .between => 60
  | .like => 60
  | .equality => 50
  | .is => 40
  | .unaryNot => 30
  | .and => 20
  | .or => 10
  | .none => 0

def toNat (d : Dialect) (s : Strength) : Nat :=
  match d with
  | .postgresql => s.postgresql
  | _ => s.common

end Strength

/-- The strength of `NOT` before another operator is that operator's. -/
def strengthAfterNot (k : Option String) : Strength :=
  match k with
  | some "IN" | some "BETWEEN" => .between
  | some "LIKE" | some "ILIKE" | some "RLIKE" | some "REGEXP" | some "MATCH" | some "SIMILAR" | some "MEMBER" => .like
  | _ => .none

def keywordStrength (d : Dialect) (k : String) (second third : Option String) : Strength :=
  match k with
  | "OR" => .or
  | "AND" => .and
  | "XOR" => .xor
  | "AT" => if second == some "TIME" && third == some "ZONE" then .atTimeZone else .none
  | "NOT" => strengthAfterNot second
  | "IS" => .is
  | "IN" | "BETWEEN" | "OVERLAPS" | "OPERATOR" => .between
  | "LIKE" | "ILIKE" | "RLIKE" | "REGEXP" | "MATCH" | "SIMILAR" | "MEMBER" => .like
  | "DIV" => .multiplicative
  | "COLLATE" => if d == .postgresql then .collate else .none
  | _ => .none

/-- Operators that all dialects rank alike. -/
def symbolStrength (s : String) : Strength :=
  match s with
  | "." => .period
  | ":=" | "=" | "<" | "<=" | "<>" | ">" | ">=" | "==" | "<=>" => .equality
  | "~" | "~*" | "!~" | "!~*" | "~~" | "~~*" | "!~~" | "!~~*" => .equality
  | "|" | "&&" | "@" => .pipe
  | "##" | "&<" | "&>" | "<->" | "&<|" | "|&>" | "<<|" | "<^" | "|>>" | ">^" | "?#" | "?-" | "?-|" | "?||" | "~=" => .pipe
  | "^" | "#" | ">>" | "<<" => .caret
  | "&" => .ampersand
  | "+" | "-" => .additive
  | "*" | "/" | "//" | "%" | "||" => .multiplicative
  | "::" | "!" | "[" | "^@" => .doubleColon
  | "->" | "->>" | "#>" | "#>>" | "@>" | "<@" | "#-" | "@?" | "@@" | "?" | "?&" | "?|" => .arrow
  | _ => .none

/-- Operators that one dialect ranks with the arrows. -/
def arrowsInPostgresql : List String := ["!", "&&", "^@", "||", "#", ">>", "<<"]

def tokenStrength (d : Dialect) (t : Token) (second third : Option String) : Strength :=
  match t with
  | .word w =>
    match w.keyword with
    | some k => keywordStrength d k second third
    | none => .none
  | .symbol s =>
    if d == .postgresql && s == "[" then .bracket
    else if d == .postgresql && arrowsInPostgresql.contains s then .arrow
    else symbolStrength s
  | .customOperator _ => .arrow
  | _ => .none

/-- How tightly the next token binds what stands before it to what follows. -/
def nextStrength (d : Dialect) : Parser Nat := do
  match ← peek with
  | none => return 0
  | some t => return (tokenStrength d t (← peekKeywordAt 1) (← peekKeywordAt 2)).toNat d

end SqlTemplate.Grammar
