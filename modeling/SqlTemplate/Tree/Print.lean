/-
The printer: every tree has one text, on one line, with keywords in upper case, single spaces and
commas followed by a space. Parentheses are printed where the tree has them and nowhere else.
-/
import SqlTemplate.Tree.Basic

namespace SqlTemplate

/-- A piece with a space before it, or nothing if there is no piece. -/
def spaced (text : String) : String := if text.isEmpty then "" else " " ++ text

def spacedAll (texts : List String) : String := String.join (texts.map (" " ++ ·))

/-- `NOT ` before a negated operator. -/
def notWord (negated : Bool) : String := if negated then "NOT " else ""

/-- ANY before a pattern stands apart from it, except in ILIKE with an escape character, where it is
written directly against the pattern, as a call's name against its arguments. -/
def anyWord (family : PatternFamily) (any escaped : Bool) : String :=
  match any, family, escaped with
  | true, .iLike, true => "ANY"
  | true, _, _ => "ANY "
  | false, _, _ => ""

def printUnary (op : UnaryOp) (operand : String) : String :=
  match op with
  | .not => "NOT " ++ operand
  | .sign text => text ++ operand
  | .factorial => operand ++ "!"

def printCast (style : CastStyle) (operand : String) (type : DataType) (format : String) : String :=
  match style with
  | .cast => "CAST(" ++ operand ++ " AS " ++ type.text ++ format ++ ")"
  | .tryCast => "TRY_CAST(" ++ operand ++ " AS " ++ type.text ++ format ++ ")"
  | .safeCast => "SAFE_CAST(" ++ operand ++ " AS " ++ type.text ++ format ++ ")"
  | .doubleColon => operand ++ "::" ++ type.text

def printStar (table : Option ObjectName) : String :=
  match table with
  | some t => t.print ++ ".*"
  | none => "*"

def printJoinConstraint (condition : Option String) (constraint : JoinConstraint) : String :=
  match condition, constraint with
  | some e, _ => " ON " ++ e
  | none, .columns names => " USING(" ++ Text.commas (names.map ObjectName.print) ++ ")"
  | none, _ => ""

def isNatural : JoinConstraint → Bool
  | .natural => true
  | _ => false

/-- A join: NATURAL is written for the operators that allow it. -/
def printJoin (isGlobal : Bool) (op : JoinOperator) (relation : String) (condition : Option String)
    (constraint : JoinConstraint) : String :=
  Form.optional isGlobal "GLOBAL " ++
    (match op with
     | .cross | .crossApply | .outerApply => op.print ++ " " ++ relation
     | .straight => op.print ++ " " ++ relation ++ printJoinConstraint condition constraint
     | _ =>
       Form.optional (isNatural constraint) "NATURAL " ++ op.print ++ " " ++ relation ++
         printJoinConstraint condition constraint)

/-- Everything about a named table but its name, arguments and alias. -/
def printPartitions (d : TableDetails) : String :=
  if d.partitions.isEmpty then ""
  else "PARTITION (" ++ Text.commas (d.partitions.map Ident.print) ++ ")"

def optionalList (keyword : String) (items : List String) : String :=
  if items.isEmpty then "" else " " ++ keyword ++ " " ++ Text.commas items

def optionalExpr (keyword : String) (e : Option String) : String :=
  match e with
  | some text => " " ++ keyword ++ " " ++ text
  | none => ""

def printMatching (e : Option String) : String := optionalExpr "MATCH_CONDITION" (e.map fun text => "(" ++ text ++ ")")

def printInsertHead (conflict : Option String) (words : List String) (table : String) : String :=
  match conflict with
  | some c => "INSERT " ++ c ++ " INTO " ++ table ++ " "
  | none => Text.join " " words ++ " " ++ table ++ " "

mutual

def Expr.print : Expr → String
  | .ident id => id.print
  | .compound parts => ObjectName.print parts
  | .value v => v.print
  | .nested e => "(" ++ e.print ++ ")"
  | .tuple items => "(" ++ Text.commas (Expr.printList items) ++ ")"
  | .unary op e => printUnary op e.print
  | .binary left op right => left.print ++ " " ++ op.print ++ " " ++ right.print
  | .test e negated truth => e.print ++ " IS " ++ notWord negated ++ truth.print
  | .distinctFrom left negated right => left.print ++ " IS " ++ notWord negated ++ "DISTINCT FROM " ++ right.print
  | .inList e negated items => e.print ++ " " ++ notWord negated ++ "IN (" ++ Text.commas (Expr.printList items) ++ ")"
  | .inSubquery e negated q => e.print ++ " " ++ notWord negated ++ "IN (" ++ q.print ++ ")"
  | .between e negated low high =>
    e.print ++ " " ++ notWord negated ++ "BETWEEN " ++ low.print ++ " AND " ++ high.print
  | .pattern e negated family any p escape =>
    e.print ++ " " ++ notWord negated ++ family.print ++ " " ++ anyWord family any escape.isSome ++ p.print ++
      (match escape with | some v => " ESCAPE " ++ v.print | none => "")
  | .quantified left op quantifier right =>
    left.print ++ " " ++ op.print ++ " " ++ quantifier.print ++
      (match right with
       | .subquery q => "(" ++ q.print ++ ")"
       | e => "(" ++ e.print ++ ")")
  | .cast style e type format => printCast style e.print type (CastFormat.print format)
  | .case operand branches otherwise =>
    "CASE" ++ (match Expr.printOption operand with | some text => " " ++ text | none => "") ++
      Branch.printList branches ++ optionalExpr "ELSE" (Expr.printOption otherwise) ++ " END"
  | .subquery q => "(" ++ q.print ++ ")"
  | .exists_ negated q => notWord negated ++ "EXISTS (" ++ q.print ++ ")"
  | .call callee parameters args clauses =>
    callee.wrap (callee.name.print ++ parameters.print ++ args.print ++ spacedAll (Clause.printList clauses))
  | .form f args => f.render (Expr.printList args)

def Expr.printList : List Expr → List String
  | [] => []
  | e :: es => e.print :: Expr.printList es

def Expr.printOption : Option Expr → Option String
  | none => none
  | some e => some e.print

def Expr.printRows : List (List Expr) → List String
  | [] => []
  | row :: rows => ("(" ++ Text.commas (Expr.printList row) ++ ")") :: Expr.printRows rows

def Branch.print : Branch → String
  | ⟨condition, result⟩ => " WHEN " ++ condition.print ++ " THEN " ++ result.print

def Branch.printList : List Branch → String
  | [] => ""
  | b :: bs => b.print ++ Branch.printList bs

def Args.print : Args → String
  | .absent => ""
  | .subquery q => "(" ++ q.print ++ ")"
  | .list quantifier items clauses =>
    "(" ++ (match quantifier with | some w => w ++ " " | none => "") ++ Text.commas (Arg.printList items) ++
      (if items.isEmpty then Text.join " " (Clause.printList clauses) else spacedAll (Clause.printList clauses)) ++ ")"

def Arg.print : Arg → String
  | .expr e => e.print
  | .named name op e => name.print ++ " " ++ op ++ " " ++ e.print
  | .star table => printStar table
  | .namedStar name op table => name.print ++ " " ++ op ++ " " ++ printStar table

def Arg.printList : List Arg → List String
  | [] => []
  | a :: as => a.print :: Arg.printList as

def Clause.print : Clause → String
  | ⟨kind, args⟩ => kind.render (Expr.printList args)

def Clause.printList : List Clause → List String
  | [] => []
  | c :: cs => c.print :: Clause.printList cs

def Query.print : Query → String
  | ⟨recursive, ctes, body, clauses⟩ =>
    (if ctes.isEmpty then ""
     else "WITH " ++ Form.optional recursive "RECURSIVE " ++ Text.commas (Cte.printList ctes) ++ " ") ++
      body.print ++ spacedAll (Clause.printList clauses)

def Cte.print : Cte → String
  | ⟨aliasName, materialized, query, source⟩ =>
    aliasName.print ++ " AS " ++
      (match materialized with | some true => "MATERIALIZED " | some false => "NOT MATERIALIZED " | none => "") ++
      "(" ++ query.print ++ ")" ++ (match source with | some s => " FROM " ++ s.print | none => "")

def Cte.printList : List Cte → List String
  | [] => []
  | c :: cs => c.print :: Cte.printList cs

def SetExpr.print : SetExpr → String
  | .select s => s.print
  | .query q => "(" ++ q.print ++ ")"
  | .operation left op quantifier right =>
    left.print ++ " " ++ op.print ++ spaced quantifier ++ " " ++ right.print
  | .values explicitRow rows =>
    "VALUES " ++ Text.commas ((Expr.printRows rows).map fun row => Form.optional explicitRow "ROW" ++ row)
  | .table name => "TABLE " ++ name
  | .insert i => i.print
  | .update u => u.print
  | .delete d => d.print

def Select.print : Select → String
  | ⟨tablesFirst, quantifiers, projection, into, tables, beforeWhere, selection, grouping, having, windows⟩ =>
    let fromList := optionalList "FROM" (TableTree.printList tables)
    let items := SelectItem.printList projection
    let head :=
      if tablesFirst && items.isEmpty then (fromList.drop 1).toString
      else
        Form.optional tablesFirst ((fromList.drop 1).toString ++ " ") ++ "SELECT" ++
          spacedAll (Clause.printList quantifiers) ++ spaced (Text.commas items)
    head ++ (match into with | some text => " " ++ text | none => "") ++ Form.optional (!tablesFirst) fromList ++
      spacedAll (Clause.printList beforeWhere) ++ optionalExpr "WHERE" (Expr.printOption selection) ++ spacedAll (Clause.printList grouping) ++
      optionalExpr "HAVING" (Expr.printOption having) ++ spacedAll (Clause.printList windows)

def SelectItem.print : SelectItem → String
  | .expr e aliasName => e.print ++ (match aliasName with | some a => " AS " ++ a.print | none => "")
  | .wildcard table options => printStar table ++ spacedAll (Clause.printList options)

def SelectItem.printList : List SelectItem → List String
  | [] => []
  | i :: is => i.print :: SelectItem.printList is

def TableTree.print : TableTree → String
  | ⟨relation, joins⟩ => relation.print ++ spacedAll (Join.printList joins)

def TableTree.printList : List TableTree → List String
  | [] => []
  | t :: ts => t.print :: TableTree.printList ts

def Factor.print : Factor → String
  | .table name aliasName details clauses =>
    ObjectName.print name ++ printPartitions details ++ Form.optional details.ordinality " WITH ORDINALITY" ++
      asAlias aliasName ++ spacedAll details.indexHints ++ spacedAll (Clause.printList clauses)
  | .tableCall name args aliasName details clauses =>
    ObjectName.print name ++ printPartitions details ++ "(" ++ Text.commas (Arg.printList args) ++ ")" ++
      Form.optional details.ordinality " WITH ORDINALITY" ++ asAlias aliasName ++ spacedAll details.indexHints ++
      spacedAll (Clause.printList clauses)
  | .derived lateral q aliasName => Form.optional lateral "LATERAL " ++ "(" ++ q.print ++ ")" ++ asAlias aliasName
  | .nested t aliasName => "(" ++ t.print ++ ")" ++ asAlias aliasName
  | .computed body aliasName rest => body.print ++ asAlias aliasName ++ rest
  | .turned f turn aliasName => f.print ++ " " ++ turn.print ++ asAlias aliasName

def Join.print : Join → String
  | ⟨isGlobal, operator, relation, matching, condition, constraint⟩ =>
    printJoin isGlobal operator (relation.print ++ printMatching (Expr.printOption matching)) (Expr.printOption condition)
      constraint

def Join.printList : List Join → List String
  | [] => []
  | j :: js => j.print :: Join.printList js

def Assignment.print : Assignment → String
  | ⟨target, value⟩ => target.print ++ " = " ++ value.print

def Assignment.printList : List Assignment → List String
  | [] => []
  | a :: as => a.print :: Assignment.printList as

def Insert.print : Insert → String
  | ⟨conflict, words, table, aliasName, columns, partition, source, assignments, rowAlias, onClause, returning⟩ =>
    printInsertHead conflict words
        (ObjectName.print table ++ (match aliasName with | some a => " AS " ++ a.print | none => "")) ++
      (if columns.isEmpty then "" else "(" ++ Text.commas (columns.map Ident.print) ++ ") ") ++
      (if partition.isEmpty then "" else "PARTITION (" ++ Text.commas (Expr.printList partition) ++ ") ") ++
      (match Query.printOption source with
       | some q => q
       | none =>
         let sets := Assignment.printList assignments
         if !sets.isEmpty then "SET " ++ Text.commas sets
         else if columns.isEmpty then "DEFAULT VALUES"
         else "") ++
      rowAlias ++ spacedAll (Clause.printList onClause) ++ optionalList "RETURNING" (SelectItem.printList returning)

def Query.printOption : Option Query → Option String
  | none => none
  | some q => some q.print

def Update.print : Update → String
  | ⟨conflict, table, sources, sourcesFirst, assignments, selection, returning⟩ =>
    let fromList := optionalList "FROM" (TableTree.printList sources)
    "UPDATE " ++ (match conflict with | some c => c ++ " " | none => "") ++ table.print ++
      Form.optional sourcesFirst fromList ++ optionalList "SET" (Assignment.printList assignments) ++
      Form.optional (!sourcesFirst) fromList ++ optionalExpr "WHERE" (Expr.printOption selection) ++
      optionalList "RETURNING" (SelectItem.printList returning)

def Delete.print : Delete → String
  | ⟨targets, fromKeyword, tables, usingTables, selection, returning, clauses⟩ =>
    "DELETE" ++ (if targets.isEmpty then "" else " " ++ Text.commas (targets.map ObjectName.print)) ++
      Form.optional fromKeyword " FROM" ++ spaced (Text.commas (TableTree.printList tables)) ++
      optionalList "USING" (TableTree.printList usingTables) ++ optionalExpr "WHERE" (Expr.printOption selection) ++
      optionalList "RETURNING" (SelectItem.printList returning) ++ spacedAll (Clause.printList clauses)

end

def Statement.print : Statement → String
  | .query q => q.print
  | .insert i => i.print
  | .update u => u.print
  | .delete d => d.print
  | .other => ""

end SqlTemplate
