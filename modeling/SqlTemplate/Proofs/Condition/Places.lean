/-
Statements as marked texts: the printer over again, with marks on what a walk of the tree lists, in the
order of the walk. The walks are those of the analyses. They enter the queries in an expression and go on
to the predicates of WHERE, HAVING and ON and to the values that INSERT and UPDATE pair with columns;
everything else is plain text to them. A visitor says what is marked on the way.

There are two places where the walk goes to the second part of a text first: `a IN (query)`, where it
takes the query before the operand, and a SELECT that is written after its tables.

Main statement: the text is the one that the printer writes.
-/
import SqlTemplate.Condition.Collect
import SqlTemplate.Proofs.Tree.Marked

namespace SqlTemplate

open Condition

/-! ## Visitors -/

/-- A place of a statement that makes a condition: a predicate, a value of a row or an assignment with the columns that
it is paired with, or a value of an INSERT that sets its columns by name. -/
inductive Site where
  | predicate (p : Position) (e : Expr)
  | value (p : Position) (columns : List String) (width : Nat) (e : Expr)
  | set (name : ObjectName) (e : Expr)

namespace Site

/-- What is printed at the place. -/
def print : Site → String
  | .predicate _ e => e.print
  | .value _ _ _ e => e.print
  | .set _ e => e.print

/-- The condition that the place makes. -/
def node : Site → Except Error Node
  | .predicate p e => classify p e
  | .value p columns width e => pairing columns width e p
  | .set name e => pairing [name.print] 1 e .insertValues

end Site

/-- What is marked at a query that stands in an expression and at a place that makes a condition. -/
structure Visitor (α : Type) where
  query : Query → Marked α → Marked α
  site : Site → Marked α → Marked α
  text_query : ∀ q a, (query q a).text = a.text
  text_site : ∀ x a, (site x a).text = a.text

attribute [simp] Visitor.text_query Visitor.text_site

namespace Visitor

/-- Marks the queries, and goes into none of them. -/
def queries : Visitor Query := ⟨fun q a => (Marked.plain a.text).mark q, fun _ a => a, fun _ _ => rfl, fun _ _ => rfl⟩

/-- Marks the places that make conditions, at every level. -/
def sites : Visitor Site := ⟨fun _ a => a, fun x a => a.mark x, fun _ _ => rfl, fun _ _ => rfl⟩

end Visitor

/-! ## Texts around the parts -/

def unaryBefore : UnaryOp → String
  | .not => "NOT "
  | .sign text => text
  | .factorial => ""

def unaryAfter : UnaryOp → String
  | .factorial => "!"
  | _ => ""

theorem printUnary_eq (op : UnaryOp) (text : String) : printUnary op text = unaryBefore op ++ text ++ unaryAfter op := by
  unfold printUnary unaryBefore unaryAfter
  cases op <;> simp only [String.append_empty, String.empty_append]

def castBefore : CastStyle → String
  | .cast => "CAST("
  | .tryCast => "TRY_CAST("
  | .safeCast => "SAFE_CAST("
  | .doubleColon => ""

def castAfter (style : CastStyle) (type : DataType) (format : String) : String :=
  match style with
  | .doubleColon => "::" ++ type.text
  | _ => " AS " ++ type.text ++ format ++ ")"

theorem printCast_eq (style : CastStyle) (text : String) (type : DataType) (format : String) :
    printCast style text type format = castBefore style ++ text ++ castAfter style type format := by
  unfold printCast castBefore castAfter
  cases style <;> simp only [String.append_assoc, String.empty_append]

/-- Whether the operand after ANY or ALL has the parentheses that are printed there anyway. -/
def Expr.isSubquery : Expr → Bool
  | .subquery _ => true
  | _ => false

theorem Expr.print_quantified (l : Expr) (op : BinaryOp) (quantifier : Quantifier) (r : Expr) :
    (Expr.quantified l op quantifier r).print = l.print ++ " " ++ op.print ++ " " ++ quantifier.print ++
      (if r.isSubquery then r.print else "(" ++ r.print ++ ")") := by
  cases r <;> rfl

/-- The printed join up to its relation. -/
def joinBefore (isGlobal : Bool) (op : JoinOperator) (constraint : JoinConstraint) : String :=
  Form.optional isGlobal "GLOBAL " ++
    (match op with
     | .cross | .crossApply | .outerApply | .straight => ""
     | _ => Form.optional (isNatural constraint) "NATURAL ") ++ op.print ++ " "

/-- The printed join after its relation. -/
def joinAfter (op : JoinOperator) (condition : Option String) (constraint : JoinConstraint) : String :=
  match op with
  | .cross | .crossApply | .outerApply => ""
  | _ => printJoinConstraint condition constraint

theorem printJoin_eq (isGlobal : Bool) (op : JoinOperator) (relation : String) (condition : Option String)
    (constraint : JoinConstraint) : printJoin isGlobal op relation condition constraint =
      joinBefore isGlobal op constraint ++ relation ++ joinAfter op condition constraint := by
  unfold printJoin joinBefore joinAfter
  cases op <;> simp only [String.append_assoc, String.append_empty]

theorem joinAfter_of_hasCondition {op : JoinOperator} (h : op.hasCondition = true) (condition : String)
    (constraint : JoinConstraint) : joinAfter op (some condition) constraint = " ON " ++ condition := by
  cases op <;> first | rfl | cases h

/-- The printed WITH list of a query. -/
def printCtes (recursive : Bool) (ctes : List String) : String :=
  if ctes.isEmpty then "" else "WITH " ++ Form.optional recursive "RECURSIVE " ++ Text.commas ctes ++ " "

theorem Query.print_eq (recursive : Bool) (ctes : List Cte) (body : SetExpr) (clauses : List Clause) :
    Query.print ⟨recursive, ctes, body, clauses⟩ =
      printCtes recursive (Cte.printList ctes) ++ body.print ++ spacedAll (Clause.printList clauses) := by
  cases ctes <;> simp [Query.print, printCtes, Cte.printList]

/-- The printed INSERT up to its rows. -/
def insertBefore (i : Insert) : String :=
  printInsertHead i.conflict i.words
      (ObjectName.print i.table ++ (match i.aliasName with | some a => " AS " ++ a.print | none => "")) ++
    (if i.columns.isEmpty then "" else "(" ++ Text.commas (i.columns.map Ident.print) ++ ") ") ++
    (if i.partition.isEmpty then "" else "PARTITION (" ++ Text.commas (Expr.printList i.partition) ++ ") ")

/-- The printed INSERT after its rows. -/
def insertAfter (i : Insert) : String :=
  i.rowAlias ++ spacedAll (Clause.printList i.onClause) ++ optionalList "RETURNING" (SelectItem.printList i.returning)

/-- The printed assignments of an INSERT that has no query to insert from. -/
def printSets (noColumns : Bool) (sets : List String) : String :=
  if !sets.isEmpty then "SET " ++ Text.commas sets else if noColumns then "DEFAULT VALUES" else ""

theorem Insert.print_eq (i : Insert) : i.print =
    insertBefore i ++ (Query.printOption i.source).getD (printSets i.columns.isEmpty (Assignment.printList i.assignments)) ++
      insertAfter i := by
  obtain ⟨conflict, words, table, aliasName, columns, partition, source, assignments, rowAlias, onClause, returning⟩ := i
  cases source <;>
  simp only [Insert.print.eq_def, insertBefore, insertAfter, printSets, Query.printOption, String.append_assoc] <;>
  rfl

namespace Marked

variable {α : Type}

def withList (recursive : Bool) (ctes : List (Marked α)) : Marked α :=
  if ctes.isEmpty then plain ""
  else enclosed ("WITH " ++ Form.optional recursive "RECURSIVE ") (commas ctes) " "

def valuesList (explicitRow : Bool) (rows : List (Marked α)) : Marked α :=
  plain "VALUES " ++ commas (rows.map (plain (Form.optional explicitRow "ROW") ++ ·))

/-- The rows of an INSERT that has no query to insert from. -/
def setList (noColumns : Bool) (sets : List (Marked α)) : Marked α :=
  if sets.isEmpty then plain (if noColumns then "DEFAULT VALUES" else "") else plain "SET " ++ commas sets

/-- A SELECT up to the clauses that precede WHERE. -/
def select (tablesFirst : Bool) (chosen : String) (items : List (Marked α)) (into : Option String)
    (tables : List (Marked α)) : Marked α :=
  let rest := plain (match into with | some text => " " ++ text | none => "")
  if tablesFirst then
    (if items.isEmpty then opening "FROM" tables else turned (opening "FROM" tables) chosen (commas items).apart) ++ rest
  else plain chosen ++ (commas items).apart ++ rest ++ keywordList "FROM" tables

end Marked

/-! ## Marked statements -/

section

variable {α : Type} (v : Visitor α)

open Marked

/-- An assignment of an INSERT; one to several columns pairs nothing, and no value is entered. -/
def Assignment.markedSet : Assignment → Marked α
  | ⟨.column name, e⟩ => plain (name.print ++ " = ") ++ v.site (.set name e) (plain e.print)
  | ⟨.row names, e⟩ => plain (Assignment.print ⟨.row names, e⟩)

mutual

def Expr.marked : Expr → Marked α
  | .ident id => plain id.print
  | .compound parts => plain (ObjectName.print parts)
  | .value x => plain x.print
  | .nested e => enclosed "(" e.marked ")"
  | .tuple items => enclosed "(" (commas (Expr.markedList items)) ")"
  | .unary op e => enclosed (unaryBefore op) e.marked (unaryAfter op)
  | .binary l op r => l.marked ++ plain (" " ++ op.print ++ " ") ++ r.marked
  | .test e negated truth => e.marked ++ plain (" IS " ++ notWord negated ++ truth.print)
  | .distinctFrom l negated r => l.marked ++ plain (" IS " ++ notWord negated ++ "DISTINCT FROM ") ++ r.marked
  | .inList e negated items => e.marked ++ enclosed (" " ++ notWord negated ++ "IN (") (commas (Expr.markedList items)) ")"
  | .inSubquery e negated q => turned e.marked (notWord negated ++ "IN (") (v.query q q.marked) ++ plain ")"
  | .between e negated low high =>
    e.marked ++ plain (" " ++ notWord negated ++ "BETWEEN ") ++ low.marked ++ plain " AND " ++ high.marked
  | .pattern e negated family any p escape =>
    e.marked ++ plain (" " ++ notWord negated ++ family.print ++ " " ++ anyWord family any escape.isSome) ++ p.marked ++
      plain (match escape with | some x => " ESCAPE " ++ x.print | none => "")
  | .quantified l op quantifier r =>
    l.marked ++ plain (" " ++ op.print ++ " " ++ quantifier.print) ++
      (if r.isSubquery then r.marked else enclosed "(" r.marked ")")
  | .cast style e type format => enclosed (castBefore style) e.marked (castAfter style type (CastFormat.print format))
  | .case operand branches otherwise =>
    plain "CASE" ++ prefixed " " (Expr.markedOption operand) ++ Branch.markedList branches ++
      guarded "ELSE" (Expr.markedOption otherwise) ++ plain " END"
  | .subquery q => enclosed "(" (v.query q q.marked) ")"
  | .exists_ negated q => enclosed (notWord negated ++ "EXISTS (") (v.query q q.marked) ")"
  | .call callee parameters args clauses =>
    enclosed (Form.optional callee.braced "\x7bfn " ++ callee.name.print ++ parameters.print) args.marked
      (spacedAll (Clause.printList clauses) ++ Form.optional callee.braced "\x7d")
  | .form f args => plain (f.render (Expr.printList args))

def Expr.markedList : List Expr → List (Marked α)
  | [] => []
  | e :: es => e.marked :: Expr.markedList es

def Expr.markedOption : Option Expr → Option (Marked α)
  | none => none
  | some e => some e.marked

def Expr.markedRows : List (List Expr) → List (Marked α)
  | [] => []
  | row :: rows => enclosed "(" (commas (Expr.markedList row)) ")" :: Expr.markedRows rows

/-- A predicate, which is a place that makes a condition. -/
def Expr.markedPredicate (p : Position) : Option Expr → Option (Marked α)
  | none => none
  | some e => some (v.site (.predicate p e) e.marked)

/-- The values of a row; those that have a column are places that make conditions, and the others are not visited. -/
def Expr.markedPairs : List Ident → List Expr → List (Marked α)
  | _, [] => []
  | [], e :: es => plain e.print :: Expr.markedPairs [] es
  | c :: cs, e :: es => v.site (.value .insertValues [c.print] 1 e) e.marked :: Expr.markedPairs cs es

def Expr.markedPairsRows (columns : List Ident) : List (List Expr) → List (Marked α)
  | [] => []
  | row :: rows => enclosed "(" (commas (Expr.markedPairs columns row)) ")" :: Expr.markedPairsRows columns rows

def Branch.marked : Branch → Marked α
  | ⟨condition, result⟩ => plain " WHEN " ++ condition.marked ++ plain " THEN " ++ result.marked

def Branch.markedList : List Branch → Marked α
  | [] => plain ""
  | b :: bs => b.marked ++ Branch.markedList bs

def Args.marked : Args → Marked α
  | .absent => plain ""
  | .subquery q => enclosed "(" (v.query q q.marked) ")"
  | .list quantifier items clauses =>
    enclosed ("(" ++ (match quantifier with | some w => w ++ " " | none => "")) (commas (Arg.markedList items))
      ((if items.isEmpty then Text.join " " (Clause.printList clauses) else spacedAll (Clause.printList clauses)) ++ ")")

def Arg.marked : Arg → Marked α
  | .expr e => e.marked
  | .named name op e => plain (name.print ++ " " ++ op ++ " ") ++ e.marked
  | .star table => plain (printStar table)
  | .namedStar name op table => plain (name.print ++ " " ++ op ++ " " ++ printStar table)

def Arg.markedList : List Arg → List (Marked α)
  | [] => []
  | a :: as => a.marked :: Arg.markedList as

def Query.marked : Query → Marked α
  | ⟨recursive, ctes, body, clauses⟩ =>
    withList recursive (Cte.markedList ctes) ++ body.marked ++ plain (spacedAll (Clause.printList clauses))

/-- The query that rows are inserted from. If a VALUES list is paired with columns, nothing before it is visited. -/
def Query.markedSource (columns : List Ident) : Query → Marked α
  | ⟨recursive, ctes, body, clauses⟩ =>
    (match body with
     | .values explicitRow rows =>
       if columns.isEmpty then
         withList recursive (Cte.markedList ctes) ++ valuesList explicitRow (Expr.markedRows rows)
       else
         plain (printCtes recursive (Cte.printList ctes)) ++ valuesList explicitRow (Expr.markedPairsRows columns rows)
     | other => withList recursive (Cte.markedList ctes) ++ other.marked) ++
      plain (spacedAll (Clause.printList clauses))

def Query.markedSourceOption (columns : List Ident) : Option Query → Option (Marked α)
  | none => none
  | some q => some (q.markedSource columns)

def Cte.marked : Cte → Marked α
  | ⟨aliasName, materialized, query, source⟩ =>
    enclosed (aliasName.print ++ " AS " ++
        (match materialized with | some true => "MATERIALIZED " | some false => "NOT MATERIALIZED " | none => "") ++ "(")
      query.marked (")" ++ (match source with | some s => " FROM " ++ s.print | none => ""))

def Cte.markedList : List Cte → List (Marked α)
  | [] => []
  | c :: cs => c.marked :: Cte.markedList cs

def SetExpr.marked : SetExpr → Marked α
  | .select s => s.marked
  | .query q => enclosed "(" q.marked ")"
  | .operation l op quantifier r => l.marked ++ plain (" " ++ op.print ++ spaced quantifier ++ " ") ++ r.marked
  | .values explicitRow rows => valuesList explicitRow (Expr.markedRows rows)
  | .table name => plain ("TABLE " ++ name)
  | .insert i => i.marked
  | .update u => u.marked
  | .delete d => plain d.print

def Select.marked : Select → Marked α
  | ⟨tablesFirst, quantifiers, projection, into, tables, beforeWhere, selection, grouping, having, windows⟩ =>
    Marked.select tablesFirst ("SELECT" ++ spacedAll (Clause.printList quantifiers)) (SelectItem.markedList projection) into
        (TableTree.markedList tables) ++
      plain (spacedAll (Clause.printList beforeWhere)) ++ guarded "WHERE" (Expr.markedPredicate .where_ selection) ++
      plain (spacedAll (Clause.printList grouping)) ++ guarded "HAVING" (Expr.markedPredicate .having having) ++
      plain (spacedAll (Clause.printList windows))

def SelectItem.marked : SelectItem → Marked α
  | .expr e aliasName => e.marked ++ plain (match aliasName with | some a => " AS " ++ a.print | none => "")
  | .wildcard table options => plain (printStar table ++ spacedAll (Clause.printList options))

def SelectItem.markedList : List SelectItem → List (Marked α)
  | [] => []
  | i :: is => i.marked :: SelectItem.markedList is

def TableTree.marked : TableTree → Marked α
  | ⟨relation, joins⟩ => relation.marked ++ Marked.row (Join.markedList joins)

def TableTree.markedList : List TableTree → List (Marked α)
  | [] => []
  | t :: ts => t.marked :: TableTree.markedList ts

def Factor.marked : Factor → Marked α
  | .table name aliasName details clauses => plain (Factor.print (.table name aliasName details clauses))
  | .tableCall name args aliasName details clauses => plain (Factor.print (.tableCall name args aliasName details clauses))
  | .derived lateral q aliasName => enclosed (Form.optional lateral "LATERAL " ++ "(") q.marked (")" ++ asAlias aliasName)
  | .nested t aliasName => enclosed "(" t.marked (")" ++ asAlias aliasName)
  | .computed body aliasName rest => plain (Factor.print (.computed body aliasName rest))
  | .turned f turn aliasName => plain (Factor.print (.turned f turn aliasName))

def Join.marked : Join → Marked α
  | ⟨isGlobal, operator, relation, matching, condition, constraint⟩ =>
    enclosed (joinBefore isGlobal operator constraint) relation.marked (printMatching (Expr.printOption matching)) ++
      (match operator.hasCondition, Expr.markedPredicate .joinOn condition with
       | true, some e => plain " ON " ++ e
       | _, _ => plain (joinAfter operator (Expr.printOption condition) constraint))

def Join.markedList : List Join → List (Marked α)
  | [] => []
  | j :: js => j.marked :: Join.markedList js

def Assignment.marked : Assignment → Marked α
  | ⟨target, e⟩ =>
    plain (target.print ++ " = ") ++ v.site (.value .updateSet target.columns target.columns.length e) e.marked

def Assignment.markedList : List Assignment → List (Marked α)
  | [] => []
  | a :: as => a.marked :: Assignment.markedList as

/-- Beside a query to insert from the assignments are visited, but they are not printed. -/
def Insert.marked : Insert → Marked α
  | ⟨conflict, words, table, aliasName, columns, partition, source, assignments, rowAlias, onClause, returning⟩ =>
    let i : Insert := ⟨conflict, words, table, aliasName, columns, partition, source, assignments, rowAlias, onClause, returning⟩
    let sets := assignments.map (Assignment.markedSet v)
    enclosed (insertBefore i)
      (match Query.markedSourceOption columns source with
       | some q => (commas sets).hidden ++ q
       | none => setList columns.isEmpty sets) (insertAfter i)

def Update.marked : Update → Marked α
  | ⟨conflict, table, sources, sourcesFirst, assignments, selection, returning⟩ =>
    let from_ := keywordList "FROM" (TableTree.markedList sources)
    plain ("UPDATE " ++ (match conflict with | some c => c ++ " " | none => "")) ++ table.marked ++
      given sourcesFirst from_ ++ keywordList "SET" (Assignment.markedList assignments) ++
      given (!sourcesFirst) from_ ++ guarded "WHERE" (Expr.markedPredicate .where_ selection) ++
      plain (optionalList "RETURNING" (SelectItem.printList returning))

end

def Delete.marked : Delete → Marked α
  | ⟨targets, fromKeyword, tables, usingTables, selection, returning, clauses⟩ =>
    plain ("DELETE" ++ (if targets.isEmpty then "" else " " ++ Text.commas (targets.map ObjectName.print)) ++
        Form.optional fromKeyword " FROM") ++
      (commas (TableTree.markedList v tables)).apart ++ keywordList "USING" (TableTree.markedList v usingTables) ++
      guarded "WHERE" (Expr.markedPredicate v .where_ selection) ++
      plain (optionalList "RETURNING" (SelectItem.printList returning) ++ spacedAll (Clause.printList clauses))

def Statement.marked : Statement → Marked α
  | .query q => q.marked v
  | .insert i => i.marked v
  | .update u => u.marked v
  | .delete d => d.marked v
  | .other => plain ""

/-! ## Their texts -/

@[simp] theorem Marked.text_withList (recursive : Bool) (ctes : List (Marked α)) :
    (withList recursive ctes).text = printCtes recursive (ctes.map text) := by
  cases ctes <;> simp [withList, printCtes]

@[simp] theorem Marked.text_valuesList (explicitRow : Bool) (rows : List (Marked α)) :
    (valuesList explicitRow rows).text =
      "VALUES " ++ Text.commas ((rows.map text).map fun row => Form.optional explicitRow "ROW" ++ row) := by
  simp [valuesList, Function.comp_def]

@[simp] theorem Marked.text_setList (noColumns : Bool) (sets : List (Marked α)) :
    (setList noColumns sets).text = printSets noColumns (sets.map text) := by
  cases sets <;> simp [setList, printSets]

@[simp] theorem Marked.text_select (tablesFirst : Bool) (chosen : String) (items : List (Marked α)) (into : Option String)
    (tables : List (Marked α)) : (select tablesFirst chosen items into tables).text =
      (if tablesFirst && (items.map text).isEmpty then ((optionalList "FROM" (tables.map text)).drop 1).toString
       else Form.optional tablesFirst (((optionalList "FROM" (tables.map text)).drop 1).toString ++ " ") ++ chosen ++
        spaced (Text.commas (items.map text))) ++ (match into with | some text => " " ++ text | none => "") ++
      Form.optional (!tablesFirst) (optionalList "FROM" (tables.map text)) := by
  cases tablesFirst with
  | false => simp [select, Form.optional]
  | true => cases items <;> simp [select, Form.optional, String.append_assoc]

@[simp] theorem Marked.entries_withList (recursive : Bool) (ctes : List (Marked α)) :
    (withList recursive ctes).entries = ctes.flatMap entries := by
  cases ctes <;> simp [withList]

@[simp] theorem Marked.entries_setList (noColumns : Bool) (sets : List (Marked α)) :
    (setList noColumns sets).entries = sets.flatMap entries := by
  cases sets <;> simp [setList]

@[simp] theorem Marked.entries_valuesList (explicitRow : Bool) (rows : List (Marked α)) :
    (valuesList explicitRow rows).entries = rows.flatMap entries := by
  simp [valuesList, List.flatMap_map]

/-- The items of a SELECT are visited before its tables, wherever they stand. -/
@[simp] theorem Marked.entries_select (tablesFirst : Bool) (chosen : String) (items : List (Marked α)) (into : Option String)
    (tables : List (Marked α)) :
    (select tablesFirst chosen items into tables).entries = items.flatMap entries ++ tables.flatMap entries := by
  cases tablesFirst with
  | false => simp [select]
  | true => cases items <;> simp [select]

theorem Assignment.text_markedSets (as : List Assignment) :
    (as.map (Assignment.markedSet v)).map text = Assignment.printList as := by
  induction as with
  | nil => rfl
  | cons a as ih =>
    obtain ⟨target, e⟩ := a
    rw [List.map_cons, List.map_cons, ih, Assignment.printList, Assignment.print]
    cases target <;> simp [Assignment.markedSet, Assignment.print, Target.print]

theorem Marked.text_parenthesized {as : List (Marked α)} {texts : List String} (h : as.map text = texts) :
    (enclosed "(" (commas as) ")").text = "(" ++ Text.commas texts ++ ")" := by
  rw [text_enclosed, text_commas, h]

mutual

theorem Expr.text_marked : ∀ e : Expr, (e.marked v).text = e.print
  | .ident _ => rfl
  | .compound _ => rfl
  | .value _ => rfl
  | .nested e => by simp [Expr.marked, Expr.print, e.text_marked]
  | .tuple items => by simp [Expr.marked, Expr.print, Expr.text_markedList items]
  | .unary op e => by simp [Expr.marked, Expr.print, printUnary_eq, e.text_marked]
  | .binary l op r => by simp [Expr.marked, Expr.print, l.text_marked, r.text_marked, String.append_assoc]
  | .test e negated truth => by simp [Expr.marked, Expr.print, e.text_marked, String.append_assoc]
  | .distinctFrom l negated r => by simp [Expr.marked, Expr.print, l.text_marked, r.text_marked, String.append_assoc]
  | .inList e negated items => by
    simp [Expr.marked, Expr.print, e.text_marked, Expr.text_markedList items, String.append_assoc]
  | .inSubquery e negated q => by simp [Expr.marked, Expr.print, e.text_marked, q.text_marked, String.append_assoc]
  | .between e negated low high => by
    simp [Expr.marked, Expr.print, e.text_marked, low.text_marked, high.text_marked, String.append_assoc]
  | .pattern e negated family any p escape => by
    cases escape <;> simp [Expr.marked, Expr.print, e.text_marked, p.text_marked, String.append_assoc]
  | .quantified l op quantifier r => by
    rw [Expr.marked, Expr.print_quantified]
    split <;> simp [l.text_marked, r.text_marked, String.append_assoc]
  | .cast style e type format => by simp [Expr.marked, Expr.print, printCast_eq, e.text_marked]
  | .case operand branches otherwise => by
    have hoperand := Expr.text_markedOption operand
    rw [Expr.marked, Expr.print, ← hoperand]
    cases Expr.markedOption v operand <;> simp [Expr.text_markedOption otherwise, Branch.text_markedList branches]
  | .subquery q => by simp [Expr.marked, Expr.print, q.text_marked]
  | .exists_ negated q => by simp [Expr.marked, Expr.print, q.text_marked]
  | .call callee parameters args clauses => by
    obtain ⟨name, braced⟩ := callee
    cases braced <;> simp [Expr.marked, Expr.print, Callee.wrap, Form.optional, args.text_marked, String.append_assoc]
  | .form f args => by simp [Expr.marked, Expr.print]

theorem Expr.text_markedList : ∀ es : List Expr, (Expr.markedList v es).map text = Expr.printList es
  | [] => rfl
  | e :: es => congrArg₂ List.cons e.text_marked (Expr.text_markedList es)

theorem Expr.text_markedOption : ∀ e : Option Expr, (Expr.markedOption v e).map text = Expr.printOption e
  | none => rfl
  | some e => congrArg some e.text_marked

theorem Expr.text_markedRows : ∀ rows : List (List Expr), (Expr.markedRows v rows).map text = Expr.printRows rows
  | [] => rfl
  | row :: rows =>
    congrArg₂ List.cons (text_parenthesized (Expr.text_markedList row)) (Expr.text_markedRows rows)

theorem Expr.text_markedPredicate (p : Position) :
    ∀ e : Option Expr, (Expr.markedPredicate v p e).map text = Expr.printOption e
  | none => rfl
  | some e => congrArg some ((v.text_site _ _).trans e.text_marked)

theorem Expr.text_markedPairs : ∀ (columns : List Ident) (es : List Expr),
    (Expr.markedPairs v columns es).map text = Expr.printList es
  | [], [] => rfl
  | _ :: _, [] => rfl
  | [], _ :: es => congrArg (List.cons _) (Expr.text_markedPairs [] es)
  | _ :: cs, e :: es => congrArg₂ List.cons ((v.text_site _ _).trans e.text_marked) (Expr.text_markedPairs cs es)

theorem Expr.text_markedPairsRows (columns : List Ident) :
    ∀ rows : List (List Expr), (Expr.markedPairsRows v columns rows).map text = Expr.printRows rows
  | [] => rfl
  | row :: rows =>
    congrArg₂ List.cons (text_parenthesized (Expr.text_markedPairs columns row)) (Expr.text_markedPairsRows columns rows)

theorem Branch.text_marked : ∀ b : Branch, (b.marked v).text = b.print
  | ⟨condition, result⟩ => congrArg₂ (" WHEN " ++ · ++ " THEN " ++ ·) condition.text_marked result.text_marked

theorem Branch.text_markedList : ∀ bs : List Branch, (Branch.markedList v bs).text = Branch.printList bs
  | [] => rfl
  | b :: bs => congrArg₂ (· ++ ·) b.text_marked (Branch.text_markedList bs)

theorem Args.text_marked : ∀ args : Args, (args.marked v).text = args.print
  | .absent => rfl
  | .subquery q => congrArg ("(" ++ · ++ ")") ((v.text_query q _).trans q.text_marked)
  | .list quantifier items clauses => by
    cases quantifier <;> simp [Args.marked, Args.print, Arg.text_markedList items, String.append_assoc]

theorem Arg.text_marked : ∀ a : Arg, (a.marked v).text = a.print
  | .expr e => e.text_marked
  | .named name op e => congrArg (name.print ++ " " ++ op ++ " " ++ ·) e.text_marked
  | .star _ => rfl
  | .namedStar _ _ _ => rfl

theorem Arg.text_markedList : ∀ as : List Arg, (Arg.markedList v as).map text = Arg.printList as
  | [] => rfl
  | a :: as => congrArg₂ List.cons a.text_marked (Arg.text_markedList as)

theorem Query.text_marked : ∀ q : Query, (q.marked v).text = q.print
  | ⟨recursive, ctes, body, clauses⟩ => by
    rw [Query.marked, Query.print_eq, text_append, text_append, text_withList, Cte.text_markedList ctes, body.text_marked]
    rfl

theorem Query.text_markedSource (columns : List Ident) : ∀ q : Query, (q.markedSource v columns).text = q.print
  | ⟨recursive, ctes, body, clauses⟩ => by
    have hctes := Cte.text_markedList ctes
    have hbody := body.text_marked
    rw [Query.print_eq]
    cases body with
    | values explicitRow rows =>
      rw [Query.markedSource.eq_def, text_append]
      dsimp only
      split
      · rw [text_append, text_withList, hctes]
        exact congrArg (_ ++ · ++ _) hbody
      · simp [SetExpr.print, Expr.text_markedPairsRows columns rows]
    | _ =>
      rw [Query.markedSource.eq_def, text_append, text_append, text_withList, hctes, hbody, text_plain]

theorem Query.text_markedSourceOption (columns : List Ident) :
    ∀ q : Option Query, (Query.markedSourceOption v columns q).map text = Query.printOption q
  | none => rfl
  | some q => congrArg some (q.text_markedSource columns)

theorem Cte.text_marked : ∀ c : Cte, (c.marked v).text = c.print
  | ⟨aliasName, materialized, query, source⟩ => by
    rcases materialized with _ | _ | _ <;> cases source <;>
      simp [Cte.marked, Cte.print, query.text_marked, String.append_assoc]

theorem Cte.text_markedList : ∀ cs : List Cte, (Cte.markedList v cs).map text = Cte.printList cs
  | [] => rfl
  | c :: cs => congrArg₂ List.cons c.text_marked (Cte.text_markedList cs)

theorem SetExpr.text_marked : ∀ b : SetExpr, (b.marked v).text = b.print
  | .select s => s.text_marked
  | .query q => congrArg ("(" ++ · ++ ")") q.text_marked
  | .operation l op quantifier r => by
    simp [SetExpr.marked, SetExpr.print, l.text_marked, r.text_marked, String.append_assoc]
  | .values explicitRow rows => by simp [SetExpr.marked, SetExpr.print, Expr.text_markedRows rows]
  | .table _ => rfl
  | .insert i => i.text_marked
  | .update u => u.text_marked
  | .delete _ => rfl

theorem Select.text_marked : ∀ s : Select, (s.marked v).text = s.print
  | ⟨tablesFirst, quantifiers, projection, into, tables, beforeWhere, selection, grouping, having, windows⟩ => by
    rw [Select.marked.eq_def, Select.print.eq_def]
    cases into <;> simp only [text_append, text_plain, text_select, text_guarded, SelectItem.text_markedList projection,
      TableTree.text_markedList tables, Expr.text_markedPredicate .where_ selection,
      Expr.text_markedPredicate .having having, String.append_assoc]

theorem SelectItem.text_marked : ∀ i : SelectItem, (i.marked v).text = i.print
  | .expr _ _ => congrArg (· ++ _) (Expr.text_marked _)
  | .wildcard _ _ => rfl

theorem SelectItem.text_markedList : ∀ is : List SelectItem, (SelectItem.markedList v is).map text = SelectItem.printList is
  | [] => rfl
  | i :: is => congrArg₂ List.cons i.text_marked (SelectItem.text_markedList is)

theorem TableTree.text_marked : ∀ t : TableTree, (t.marked v).text = t.print
  | ⟨relation, joins⟩ =>
    congrArg₂ (· ++ ·) relation.text_marked ((text_row _).trans (congrArg spacedAll (Join.text_markedList joins)))

theorem TableTree.text_markedList : ∀ ts : List TableTree, (TableTree.markedList v ts).map text = TableTree.printList ts
  | [] => rfl
  | t :: ts => congrArg₂ List.cons t.text_marked (TableTree.text_markedList ts)

theorem Factor.text_marked : ∀ f : Factor, (f.marked v).text = f.print
  | .table _ _ _ _ => rfl
  | .tableCall _ _ _ _ _ => rfl
  | .derived lateral q aliasName => by simp [Factor.marked, Factor.print, q.text_marked, String.append_assoc]
  | .nested t aliasName => by simp [Factor.marked, Factor.print, t.text_marked, String.append_assoc]
  | .computed _ _ _ => rfl
  | .turned _ _ _ => rfl

theorem Join.text_marked : ∀ j : Join, (j.marked v).text = j.print
  | ⟨isGlobal, operator, relation, matching, condition, constraint⟩ => by
    have hcondition := Expr.text_markedPredicate .joinOn condition
    rw [Join.marked, Join.print, printJoin_eq, ← hcondition, text_append, text_enclosed, relation.text_marked,
      ← String.append_assoc]
    split
    · rename_i e hop he
      rw [he, Option.map_some, joinAfter_of_hasCondition hop]
      rfl
    · rw [hcondition]
      rfl

theorem Join.text_markedList : ∀ js : List Join, (Join.markedList v js).map text = Join.printList js
  | [] => rfl
  | j :: js => congrArg₂ List.cons j.text_marked (Join.text_markedList js)

theorem Assignment.text_marked : ∀ a : Assignment, (a.marked v).text = a.print
  | ⟨target, e⟩ => congrArg (target.print ++ " = " ++ ·) ((v.text_site _ _).trans e.text_marked)

theorem Assignment.text_markedList : ∀ as : List Assignment, (Assignment.markedList v as).map text = Assignment.printList as
  | [] => rfl
  | a :: as => congrArg₂ List.cons a.text_marked (Assignment.text_markedList as)

theorem Insert.text_marked : ∀ i : Insert, (i.marked v).text = i.print
  | ⟨conflict, words, table, aliasName, columns, partition, source, assignments, rowAlias, onClause, returning⟩ => by
    have hsource := Query.text_markedSourceOption columns source
    rw [Insert.print_eq, Insert.marked, text_enclosed, ← hsource]
    cases Query.markedSourceOption v columns source with
    | none => rw [text_setList, Assignment.text_markedSets]; rfl
    | some q => simp

theorem Update.text_marked : ∀ u : Update, (u.marked v).text = u.print
  | ⟨conflict, table, sources, sourcesFirst, assignments, selection, returning⟩ => by
    rw [Update.marked.eq_def, Update.print.eq_def]
    cases conflict <;> simp only [text_append, text_plain, text_given, text_keywordList, text_guarded, table.text_marked,
      TableTree.text_markedList sources, Assignment.text_markedList assignments, Expr.text_markedPredicate .where_ selection]

end

theorem Delete.text_marked : ∀ d : Delete, (d.marked v).text = d.print
  | ⟨targets, fromKeyword, tables, usingTables, selection, returning, clauses⟩ => by
    rw [Delete.marked, Delete.print.eq_def]
    simp only [text_append, text_plain, text_apart, text_commas, text_keywordList, text_guarded, TableTree.text_markedList v tables,
      TableTree.text_markedList v usingTables, Expr.text_markedPredicate v .where_ selection, String.append_assoc]

/-- Marking a statement leaves its text as it is printed. -/
theorem Statement.text_marked : ∀ st : Statement, (st.marked v).text = st.print
  | .query q => q.text_marked v
  | .insert i => i.text_marked v
  | .update u => u.text_marked v
  | .delete d => d.text_marked v
  | .other => rfl

end

end SqlTemplate
