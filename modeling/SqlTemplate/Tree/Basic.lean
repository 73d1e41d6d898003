/-
Syntax trees of SQL: expressions, queries, table expressions and the statements that read or change
rows. Trees are what the grammar produces, the printer writes, the analyses walk and a merge edits.

Every expression and every query of such a statement is in its tree, also where no analysis comes. What
a tree knows by its text alone holds none: data types, index hints, locks, settings and formats, the
names after INTO, and words between expressions. Statements of other kinds are recognised and carry
nothing.
-/
import SqlTemplate.Tree.Clause

namespace SqlTemplate

mutual

inductive Expr where
  | ident (id : Ident)
  | compound (parts : List Ident)
  | value (v : Value)
  | nested (e : Expr)
  | tuple (items : List Expr)
  | unary (op : UnaryOp) (e : Expr)
  | binary (left : Expr) (op : BinaryOp) (right : Expr)
  | test (e : Expr) (negated : Bool) (truth : TruthTest)
  | distinctFrom (left : Expr) (negated : Bool) (right : Expr)
  | inList (e : Expr) (negated : Bool) (items : List Expr)
  | inSubquery (e : Expr) (negated : Bool) (q : Query)
  | between (e : Expr) (negated : Bool) (low high : Expr)
  | pattern (e : Expr) (negated : Bool) (family : PatternFamily) (any : Bool) (p : Expr) (escape : Option Value)
  | quantified (left : Expr) (op : BinaryOp) (quantifier : Quantifier) (right : Expr)
  | cast (style : CastStyle) (e : Expr) (type : DataType) (format : CastFormat)
  | case (operand : Option Expr) (branches : List Branch) (otherwise : Option Expr)
  | subquery (q : Query)
  | exists_ (negated : Bool) (q : Query)
  | call (callee : Callee) (parameters args : Args) (clauses : List Clause)
  | form (f : Form) (args : List Expr)

/-- `WHEN condition THEN result`. -/
structure Branch where
  condition : Expr
  result : Expr

/-- What a call is given: nothing at all, a query, or a list in parentheses. -/
inductive Args where
  | absent
  | subquery (q : Query)
  | list (quantifier : Option String) (items : List Arg) (clauses : List Clause)

inductive Arg where
  | expr (e : Expr)
  | named (name : Expr) (op : String) (e : Expr)
  | star (table : Option ObjectName)
  | namedStar (name : Expr) (op : String) (table : Option ObjectName)

/-- A clause that no analysis looks into, with its expressions in order. -/
structure Clause where
  kind : ClauseKind
  args : List Expr

/-- A query: its WITH list, empty if there is none, its body, and the clauses from ORDER BY on. -/
structure Query where
  recursive : Bool
  ctes : List Cte
  body : SetExpr
  clauses : List Clause

structure Cte where
  aliasName : TableAlias
  materialized : Option Bool
  query : Query
  source : Option Ident

inductive SetExpr where
  | select (s : Select)
  | query (q : Query)
  | operation (left : SetExpr) (op : SetOperator) (quantifier : String) (right : SetExpr)
  | values (explicitRow : Bool) (rows : List (List Expr))
  | table (name : String)
  | insert (i : Insert)
  | update (u : Update)
  | delete (d : Delete)

/-- A SELECT: DISTINCT and TOP in `quantifiers`, what stands between its tables and WHERE in `beforeWhere`, GROUP BY
and the clauses after it in `grouping`, WINDOW, QUALIFY and CONNECT BY in `windows`. -/
structure Select where
  tablesFirst : Bool
  quantifiers : List Clause
  projection : List SelectItem
  into : Option String
  tables : List TableTree
  beforeWhere : List Clause
  selection : Option Expr
  grouping : List Clause
  having : Option Expr
  windows : List Clause

inductive SelectItem where
  | expr (e : Expr) (aliasName : Option Ident)
  | wildcard (table : Option ObjectName) (options : List Clause)

/-- A relation and the joins that follow it. -/
structure TableTree where
  relation : Factor
  joins : List Join

/-- A relation. A named table with arguments is a function that yields one. One that is computed in some other way
has a clause in place of a name, and `rest` is printed after its alias. One that is turned has rows of another relation
for columns, the other way round, or as they match a pattern. -/
inductive Factor where
  | table (name : ObjectName) (aliasName : Option TableAlias) (details : TableDetails) (clauses : List Clause)
  | tableCall (name : ObjectName) (args : List Arg) (aliasName : Option TableAlias) (details : TableDetails)
      (clauses : List Clause)
  | derived (lateral : Bool) (q : Query) (aliasName : Option TableAlias)
  | nested (t : TableTree) (aliasName : Option TableAlias)
  | computed (body : Clause) (aliasName : Option TableAlias) (rest : String)
  | turned (f : Factor) (turn : Clause) (aliasName : Option TableAlias)

/-- A join; `matching` picks the nearest row in ASOF JOIN, `condition` is the ON expression and `constraint` any other
way to say which rows match. -/
structure Join where
  isGlobal : Bool
  operator : JoinOperator
  relation : Factor
  matching : Option Expr
  condition : Option Expr
  constraint : JoinConstraint

structure Assignment where
  target : Target
  value : Expr

/-- An INSERT; `words` are the keywords between INSERT and the table, `onClause` its ON clause. -/
structure Insert where
  conflict : Option String
  words : List String
  table : ObjectName
  aliasName : Option Ident
  columns : List Ident
  partition : List Expr
  source : Option Query
  assignments : List Assignment
  rowAlias : String
  onClause : List Clause
  returning : List SelectItem

/-- An UPDATE; `sources` is its FROM list, empty if there is none, which may stand before SET. -/
structure Update where
  conflict : Option String
  table : TableTree
  sources : List TableTree
  sourcesFirst : Bool
  assignments : List Assignment
  selection : Option Expr
  returning : List SelectItem

/-- A DELETE; `targets` are listed before FROM, `usingTables` after USING, `clauses` are ORDER BY and LIMIT. -/
structure Delete where
  targets : List ObjectName
  fromKeyword : Bool
  tables : List TableTree
  usingTables : List TableTree
  selection : Option Expr
  returning : List SelectItem
  clauses : List Clause

end

/-- The alias of a relation. -/
def Factor.alias? (f : Factor) : Option TableAlias :=
  match f with
  | .table _ aliasName _ _ => aliasName
  | .tableCall _ _ aliasName _ _ => aliasName
  | .derived _ _ aliasName => aliasName
  | .nested _ aliasName => aliasName
  | .computed _ aliasName _ => aliasName
  | .turned _ _ aliasName => aliasName

/-- The relation with this alias in place of its own. -/
def Factor.withAlias (f : Factor) (a : TableAlias) : Factor :=
  match f with
  | .table name _ details clauses => .table name (some a) details clauses
  | .tableCall name args _ details clauses => .tableCall name args (some a) details clauses
  | .derived lateral q _ => .derived lateral q (some a)
  | .nested t _ => .nested t (some a)
  | .computed body _ rest => .computed body (some a) rest
  | .turned f turn _ => .turned f turn (some a)

/-- A statement; one that neither reads nor changes rows is `other`. -/
inductive Statement where
  | query (q : Query)
  | insert (i : Insert)
  | update (u : Update)
  | delete (d : Delete)
  | other

end SqlTemplate
