/-
All tables that are written in a statement, wherever they stand, and which of them the walk of `references`
meets. The walk looks into projections, relations, assignments, WHERE and HAVING, and into no clause: not into GROUP
BY, ORDER BY, SORT BY, LIMIT or RETURNING, not into what stands between the tables and WHERE or after a table or a
star, not into the clauses of calls, not into MATCH_CONDITION, and not into the arguments of special forms. A relation
that is computed from expressions or turned ends it with an error.
-/
import SqlTemplate.Proofs.Table.Roles
import SqlTemplate.Proofs.Table.Sets

namespace SqlTemplate

open Table (Role Reference Scope References Key keyOf)

namespace Table

/-- A table as it is written somewhere in a statement, the keys that the WITH lists around it declare, and whether it
stands where the walk comes. -/
structure Occurrence where
  declared : List String
  isMet : Bool
  name : String
  aliasName : Option String
deriving DecidableEq

namespace Occurrence

def key (o : Occurrence) : Key := keyOf o.name o.aliasName

/-- Whether the name is that of a WITH query around it. -/
def isDeclared (o : Occurrence) : Bool := Scope.declares ⟨true, o.declared⟩ o.name

def isReported (o : Occurrence) : Bool := o.isMet && !o.isDeclared

end Occurrence

/-- Occurrences in a part of a statement that the walk passes by. -/
def unmet (os : List Occurrence) : List Occurrence := os.map fun o => { o with isMet := false }

/-- A query in the place of a table stands for the table that its alias names. -/
def derivedOccurrence (aliasName : Option TableAlias) : List Occurrence :=
  match aliasName with
  | some a => [⟨[], true, a.text, some a.text⟩]
  | none => []

end Table

open Table

/-! ## Occurrences -/

mutual

def Expr.occurrences (ctes : List String) : Expr → List Occurrence
  | .ident _ => []
  | .compound _ => []
  | .value _ => []
  | .nested e => e.occurrences ctes
  | .tuple items => Expr.occurrencesList ctes items
  | .unary _ e => e.occurrences ctes
  | .binary l _ r => l.occurrences ctes ++ r.occurrences ctes
  | .test e _ _ => e.occurrences ctes
  | .distinctFrom l _ r => l.occurrences ctes ++ r.occurrences ctes
  | .inList e _ items => e.occurrences ctes ++ Expr.occurrencesList ctes items
  | .inSubquery e _ q => q.occurrences ctes ++ e.occurrences ctes
  | .between e _ low high => e.occurrences ctes ++ low.occurrences ctes ++ high.occurrences ctes
  | .pattern e _ _ _ p _ => e.occurrences ctes ++ p.occurrences ctes
  | .quantified l _ _ r => l.occurrences ctes ++ r.occurrences ctes
  | .cast _ e _ _ => e.occurrences ctes
  | .case operand branches otherwise =>
    Expr.occurrencesOption ctes operand ++ Branch.occurrencesList ctes branches ++ Expr.occurrencesOption ctes otherwise
  | .subquery q => q.occurrences ctes
  | .exists_ _ q => q.occurrences ctes
  | .call _ parameters args clauses =>
    args.occurrences ctes ++ unmet (parameters.occurrences ctes ++ Clause.occurrencesList ctes clauses)
  | .form _ args => unmet (Expr.occurrencesList ctes args)

def Expr.occurrencesList (ctes : List String) : List Expr → List Occurrence
  | [] => []
  | e :: es => e.occurrences ctes ++ Expr.occurrencesList ctes es

def Expr.occurrencesOption (ctes : List String) : Option Expr → List Occurrence
  | none => []
  | some e => e.occurrences ctes

def Expr.occurrencesRows (ctes : List String) : List (List Expr) → List Occurrence
  | [] => []
  | row :: rows => Expr.occurrencesList ctes row ++ Expr.occurrencesRows ctes rows

def Branch.occurrences (ctes : List String) : Branch → List Occurrence
  | ⟨condition, result⟩ => condition.occurrences ctes ++ result.occurrences ctes

def Branch.occurrencesList (ctes : List String) : List Branch → List Occurrence
  | [] => []
  | b :: bs => b.occurrences ctes ++ Branch.occurrencesList ctes bs

def Args.occurrences (ctes : List String) : Args → List Occurrence
  | .absent => []
  | .subquery q => q.occurrences ctes
  | .list _ items clauses => Arg.occurrencesList ctes items ++ unmet (Clause.occurrencesList ctes clauses)

def Arg.occurrences (ctes : List String) : Arg → List Occurrence
  | .expr e => e.occurrences ctes
  | .named name _ e => e.occurrences ctes ++ unmet (name.occurrences ctes)
  | .star _ => []
  | .namedStar name _ _ => unmet (name.occurrences ctes)

def Arg.occurrencesList (ctes : List String) : List Arg → List Occurrence
  | [] => []
  | a :: as => a.occurrences ctes ++ Arg.occurrencesList ctes as

def Clause.occurrences (ctes : List String) : Clause → List Occurrence
  | ⟨_, args⟩ => Expr.occurrencesList ctes args

def Clause.occurrencesList (ctes : List String) : List Clause → List Occurrence
  | [] => []
  | c :: cs => c.occurrences ctes ++ Clause.occurrencesList ctes cs

def Query.occurrences (ctes : List String) : Query → List Occurrence
  | ⟨_, declared, body, clauses⟩ =>
    let inner := ctes ++ declared.map Cte.key
    body.occurrences inner ++ Cte.occurrencesList inner declared ++ unmet (Clause.occurrencesList inner clauses)

def Query.occurrencesOption (ctes : List String) : Option Query → List Occurrence
  | none => []
  | some q => q.occurrences ctes

def Cte.occurrences (ctes : List String) : Cte → List Occurrence
  | ⟨_, _, q, _⟩ => q.occurrences ctes

def Cte.occurrencesList (ctes : List String) : List Cte → List Occurrence
  | [] => []
  | c :: cs => c.occurrences ctes ++ Cte.occurrencesList ctes cs

def SetExpr.occurrences (ctes : List String) : SetExpr → List Occurrence
  | .select s => s.occurrences ctes
  | .query q => q.occurrences ctes
  | .operation l _ _ r => l.occurrences ctes ++ r.occurrences ctes
  | .values _ rows => Expr.occurrencesRows ctes rows
  | .table name => [⟨ctes, false, name, none⟩]
  | .insert i => i.occurrences ctes
  | .update u => u.occurrences ctes
  | .delete d => d.occurrences ctes

def Select.occurrences (ctes : List String) : Select → List Occurrence
  | ⟨_, quantifiers, projection, _, tables, beforeWhere, selection, grouping, having, windows⟩ =>
    TableTree.occurrencesList ctes tables ++ SelectItem.occurrencesList ctes projection ++
      Expr.occurrencesOption ctes selection ++ Expr.occurrencesOption ctes having ++
      unmet (Clause.occurrencesList ctes quantifiers ++ Clause.occurrencesList ctes beforeWhere ++
        Clause.occurrencesList ctes grouping ++ Clause.occurrencesList ctes windows)

def SelectItem.occurrences (ctes : List String) : SelectItem → List Occurrence
  | .expr e _ => e.occurrences ctes
  | .wildcard _ options => unmet (Clause.occurrencesList ctes options)

def SelectItem.occurrencesList (ctes : List String) : List SelectItem → List Occurrence
  | [] => []
  | i :: is => i.occurrences ctes ++ SelectItem.occurrencesList ctes is

def TableTree.occurrences (ctes : List String) : TableTree → List Occurrence
  | ⟨relation, joins⟩ => relation.occurrences ctes ++ Join.occurrencesList ctes joins

def TableTree.occurrencesList (ctes : List String) : List TableTree → List Occurrence
  | [] => []
  | t :: ts => t.occurrences ctes ++ TableTree.occurrencesList ctes ts

def Factor.occurrences (ctes : List String) : Factor → List Occurrence
  | .table name aliasName _ clauses =>
    ⟨ctes, true, name.print, aliasName.map TableAlias.text⟩ :: unmet (Clause.occurrencesList ctes clauses)
  | .tableCall _ args _ _ clauses => unmet (Arg.occurrencesList ctes args ++ Clause.occurrencesList ctes clauses)
  | .derived _ q aliasName => derivedOccurrence aliasName ++ q.occurrences ctes
  | .nested t _ => t.occurrences ctes
  | .computed body _ _ => unmet (body.occurrences ctes)
  | .turned f turn _ => unmet (f.occurrences ctes ++ turn.occurrences ctes)

/-- The ON expression of a join is met if the operator is one that takes a condition. -/
def Join.occurrences (ctes : List String) : Join → List Occurrence
  | ⟨_, op, relation, matching, condition, _⟩ =>
    relation.occurrences ctes ++
      (if op.hasCondition then Expr.occurrencesOption ctes condition else unmet (Expr.occurrencesOption ctes condition)) ++
      unmet (Expr.occurrencesOption ctes matching)

def Join.occurrencesList (ctes : List String) : List Join → List Occurrence
  | [] => []
  | j :: js => j.occurrences ctes ++ Join.occurrencesList ctes js

def Assignment.occurrences (ctes : List String) : Assignment → List Occurrence
  | ⟨_, v⟩ => v.occurrences ctes

def Assignment.occurrencesList (ctes : List String) : List Assignment → List Occurrence
  | [] => []
  | a :: as => a.occurrences ctes ++ Assignment.occurrencesList ctes as

/-- The table that rows are inserted into is never a WITH query. -/
def Insert.occurrences (ctes : List String) : Insert → List Occurrence
  | ⟨_, _, table, aliasName, _, partition, source, assignments, _, onClause, returning⟩ =>
    [⟨[], true, ObjectName.print table, aliasName.map Ident.print⟩] ++ Query.occurrencesOption ctes source ++
      Assignment.occurrencesList ctes assignments ++
      unmet (Expr.occurrencesList ctes partition ++ Clause.occurrencesList ctes onClause ++
        SelectItem.occurrencesList ctes returning)

def Update.occurrences (ctes : List String) : Update → List Occurrence
  | ⟨_, table, sources, _, assignments, selection, returning⟩ =>
    table.occurrences ctes ++ TableTree.occurrencesList ctes sources ++ Assignment.occurrencesList ctes assignments ++
      Expr.occurrencesOption ctes selection ++ unmet (SelectItem.occurrencesList ctes returning)

def Delete.occurrences (ctes : List String) : Delete → List Occurrence
  | ⟨_, _, tables, usingTables, selection, returning, clauses⟩ =>
    TableTree.occurrencesList ctes tables ++ TableTree.occurrencesList ctes usingTables ++
      Expr.occurrencesOption ctes selection ++
      unmet (SelectItem.occurrencesList ctes returning ++ Clause.occurrencesList ctes clauses)

end

/-- The tables written anywhere in a statement. -/
def Statement.occurrences : Statement → List Occurrence
  | .query q => q.occurrences []
  | .insert i => i.occurrences []
  | .update u => u.occurrences []
  | .delete d => d.occurrences []
  | .other => []

namespace Table

/-! ## What the walk reports -/

/-- The walk met `os`: its references are those to the tables that it meets, apart from declared names. -/
def Reports (x : References) (os : List Occurrence) : Prop :=
  Yields x fun rs => rs.map Reference.key = (os.filter Occurrence.isReported).map Occurrence.key

variable {x y z w : References} {os ps qs us : List Occurrence}

theorem reports_nil : Reports (.ok []) [] := yields_ok rfl

theorem filter_unmet (os : List Occurrence) : (unmet os).filter Occurrence.isReported = [] := by
  rw [List.filter_eq_nil_iff]
  intro o ho
  obtain ⟨_, -, rfl⟩ := List.mem_map.1 ho
  simp [Occurrence.isReported]

theorem reports_unmet (os : List Occurrence) : Reports (.ok []) (unmet os) := by
  apply yields_ok
  rw [filter_unmet]
  rfl

namespace Reports

theorem both (hx : Reports x os) (hy : Reports y ps) : Reports (gather x y) (os ++ ps) := by
  refine Yields.gather hx hy fun rs ts hr ht => ?_
  rw [List.map_append, hr, ht, List.filter_append, List.map_append]

theorem three (hx : Reports x os) (hy : Reports y ps) (hz : Reports z qs) :
    Reports (do return (← x) ++ (← y) ++ (← z)) (os ++ ps ++ qs) := by
  rw [gather_three]
  exact both (both hx hy) hz

theorem four (hx : Reports x os) (hy : Reports y ps) (hz : Reports z qs) (hw : Reports w us) :
    Reports (do return (← x) ++ (← y) ++ (← z) ++ (← w)) (os ++ ps ++ qs ++ us) := by
  rw [gather_four]
  exact both (both (both hx hy) hz) hw

/-- What is not looked into adds nothing. -/
theorem passing (hx : Reports x os) (ps : List Occurrence) : Reports x (os ++ unmet ps) := by
  intro rs hr
  rw [List.filter_append, filter_unmet, List.append_nil]
  exact hx rs hr

end Reports

theorem reports_named (s : Scope) (role : Role) (name : ObjectName) (aliasName : Option String) :
    Reports (.ok (namedReference s role name aliasName)) [⟨s.ctes, true, name.print, aliasName⟩] := by
  apply yields_ok
  unfold namedReference
  have hd : Occurrence.isReported ⟨s.ctes, true, name.print, aliasName⟩ = !s.declares name.print := rfl
  cases h : s.declares name.print with
  | true => simp [hd, h]
  | false => simp [hd, h, Reference.key, Occurrence.key]

/-- A table that no WITH list is asked about. -/
theorem reports_undeclared (name : String) (aliasName : Option String) (role : Role) :
    Reports (.ok [⟨name, aliasName, role⟩]) [⟨[], true, name, aliasName⟩] := by
  apply yields_ok
  simp [Occurrence.isReported, Occurrence.isDeclared, Scope.declares, Reference.key, Occurrence.key]

theorem reports_derived (aliasName : Option TableAlias) :
    Reports (.ok (derivedReference aliasName)) (derivedOccurrence aliasName) := by
  cases aliasName with
  | none => exact reports_nil
  | some a => exact reports_undeclared a.text (some a.text) .subquery

end Table

mutual

theorem Expr.references_reports (s : Scope) : ∀ e : Expr, Reports (e.references s) (e.occurrences s.ctes)
  | .ident _ => reports_nil
  | .compound _ => reports_nil
  | .value _ => reports_nil
  | .nested e => Expr.references_reports s e
  | .tuple items => Expr.referencesList_reports s items
  | .unary _ e => Expr.references_reports s e
  | .binary l _ r => .both (Expr.references_reports s l) (Expr.references_reports s r)
  | .test e _ _ => Expr.references_reports s e
  | .distinctFrom l _ r => .both (Expr.references_reports s l) (Expr.references_reports s r)
  | .inList e _ items => .both (Expr.references_reports s e) (Expr.referencesList_reports s items)
  | .inSubquery e _ q => .both (Query.references_reports s.nested q) (Expr.references_reports s e)
  | .between e _ low high =>
    .three (Expr.references_reports s e) (Expr.references_reports s low) (Expr.references_reports s high)
  | .pattern e _ _ _ p _ => .both (Expr.references_reports s e) (Expr.references_reports s p)
  | .quantified l _ _ r => .both (Expr.references_reports s l) (Expr.references_reports s r)
  | .cast _ e _ _ => Expr.references_reports s e
  | .case operand branches otherwise =>
    .three (Expr.referencesOption_reports s operand) (Branch.referencesList_reports s branches)
      (Expr.referencesOption_reports s otherwise)
  | .subquery q => Query.references_reports s.nested q
  | .exists_ _ q => Query.references_reports s.nested q
  | .call _ _ args _ => (Args.references_reports s args).passing _
  | .form _ _ => reports_unmet _

theorem Expr.referencesList_reports (s : Scope) :
    ∀ es : List Expr, Reports (Expr.referencesList s es) (Expr.occurrencesList s.ctes es)
  | [] => reports_nil
  | e :: es => .both (Expr.references_reports s e) (Expr.referencesList_reports s es)

theorem Expr.referencesOption_reports (s : Scope) :
    ∀ e : Option Expr, Reports (Expr.referencesOption s e) (Expr.occurrencesOption s.ctes e)
  | none => reports_nil
  | some e => Expr.references_reports s e

theorem Expr.referencesRows_reports (s : Scope) :
    ∀ rows : List (List Expr), Reports (Expr.referencesRows s rows) (Expr.occurrencesRows s.ctes rows)
  | [] => reports_nil
  | row :: rows => .both (Expr.referencesList_reports s row) (Expr.referencesRows_reports s rows)

theorem Branch.references_reports (s : Scope) : ∀ b : Branch, Reports (b.references s) (b.occurrences s.ctes)
  | ⟨condition, result⟩ => .both (Expr.references_reports s condition) (Expr.references_reports s result)

theorem Branch.referencesList_reports (s : Scope) :
    ∀ bs : List Branch, Reports (Branch.referencesList s bs) (Branch.occurrencesList s.ctes bs)
  | [] => reports_nil
  | b :: bs => .both (Branch.references_reports s b) (Branch.referencesList_reports s bs)

theorem Args.references_reports (s : Scope) : ∀ args : Args, Reports (args.references s) (args.occurrences s.ctes)
  | .absent => reports_nil
  | .subquery q => Query.references_reports s.nested q
  | .list _ items _ => (Arg.referencesList_reports s items).passing _

theorem Arg.references_reports (s : Scope) : ∀ a : Arg, Reports (a.references s) (a.occurrences s.ctes)
  | .expr e => Expr.references_reports s e
  | .named _ _ e => (Expr.references_reports s e).passing _
  | .star _ => reports_nil
  | .namedStar _ _ _ => reports_unmet _

theorem Arg.referencesList_reports (s : Scope) :
    ∀ as : List Arg, Reports (Arg.referencesList s as) (Arg.occurrencesList s.ctes as)
  | [] => reports_nil
  | a :: as => .both (Arg.references_reports s a) (Arg.referencesList_reports s as)

theorem Query.references_reports (s : Scope) : ∀ q : Query, Reports (q.references s) (q.occurrences s.ctes)
  | ⟨_, ctes, body, _⟩ =>
    Reports.passing (.both (SetExpr.references_reports (s.declaring ctes) body)
      (Cte.referencesList_reports (s.declaring ctes).nested ctes)) _

theorem Query.referencesOption_reports (s : Scope) :
    ∀ q : Option Query, Reports (Query.referencesOption s q) (Query.occurrencesOption s.ctes q)
  | none => reports_nil
  | some q => Query.references_reports s q

theorem Cte.references_reports (s : Scope) : ∀ c : Cte, Reports (c.references s) (c.occurrences s.ctes)
  | ⟨_, _, q, _⟩ => Query.references_reports s q

theorem Cte.referencesList_reports (s : Scope) :
    ∀ cs : List Cte, Reports (Cte.referencesList s cs) (Cte.occurrencesList s.ctes cs)
  | [] => reports_nil
  | c :: cs => .both (Cte.references_reports s c) (Cte.referencesList_reports s cs)

theorem SetExpr.references_reports (s : Scope) : ∀ b : SetExpr, Reports (b.references s) (b.occurrences s.ctes)
  | .select sel => Select.references_reports s sel
  | .query q => Query.references_reports s q
  | .operation l _ _ r => .both (SetExpr.references_reports s l) (SetExpr.references_reports s.nested r)
  | .values _ rows => Expr.referencesRows_reports s rows
  | .table _ => yields_error
  | .insert i => Insert.references_reports s i
  | .update u => Update.references_reports s u
  | .delete _ => yields_error

theorem Select.references_reports (s : Scope) : ∀ sel : Select, Reports (sel.references s) (sel.occurrences s.ctes)
  | ⟨_, _, projection, _, trees, _, selection, _, having, _⟩ =>
    Reports.passing (.four (TableTree.referencesFrom_reports s trees) (SelectItem.referencesList_reports s projection)
      (Expr.referencesOption_reports s selection) (Expr.referencesOption_reports s having)) _

theorem SelectItem.references_reports (s : Scope) :
    ∀ i : SelectItem, Reports (i.references s) (i.occurrences s.ctes)
  | .expr e _ => Expr.references_reports s e
  | .wildcard _ _ => reports_unmet _

theorem SelectItem.referencesList_reports (s : Scope) :
    ∀ is : List SelectItem, Reports (SelectItem.referencesList s is) (SelectItem.occurrencesList s.ctes is)
  | [] => reports_nil
  | i :: is => .both (SelectItem.references_reports s i) (SelectItem.referencesList_reports s is)

theorem TableTree.references_reports (s : Scope) (role joinRole : Role) :
    ∀ t : TableTree, Reports (t.references s role joinRole) (t.occurrences s.ctes)
  | ⟨relation, joins⟩ => .both (Factor.references_reports s role relation) (Join.referencesList_reports s joinRole joins)

theorem TableTree.referencesJoined_reports (s : Scope) :
    ∀ ts : List TableTree, Reports (TableTree.referencesJoined s ts) (TableTree.occurrencesList s.ctes ts)
  | [] => reports_nil
  | t :: ts => .both (TableTree.references_reports s s.joinRole s.joinRole t) (TableTree.referencesJoined_reports s ts)

theorem TableTree.referencesFrom_reports (s : Scope) :
    ∀ ts : List TableTree, Reports (TableTree.referencesFrom s ts) (TableTree.occurrencesList s.ctes ts)
  | [] => reports_nil
  | t :: ts => .both (TableTree.references_reports s s.mainRole s.joinRole t) (TableTree.referencesJoined_reports s ts)

theorem Factor.references_reports (s : Scope) (role : Role) :
    ∀ f : Factor, Reports (f.references s role) (f.occurrences s.ctes)
  | .table name _ _ _ => (reports_named s role name _).passing _
  | .tableCall _ _ _ _ _ => yields_error
  | .derived _ q aliasName => .both (reports_derived aliasName) (Query.references_reports s.nested q)
  | .nested t _ => TableTree.references_reports s role (innerJoinRole role) t
  | .computed _ _ _ => yields_error
  | .turned _ _ _ => yields_error

theorem Join.references_reports (s : Scope) (role : Role) :
    ∀ j : Join, Reports (j.references s role) (j.occurrences s.ctes)
  | ⟨_, op, relation, matching, condition, _⟩ => by
    rw [Join.references_eq]
    refine .passing (.both (Factor.references_reports s role relation) ?_) _
    split
    · exact Expr.referencesOption_reports s condition
    · exact reports_unmet _

theorem Join.referencesList_reports (s : Scope) (role : Role) :
    ∀ js : List Join, Reports (Join.referencesList s role js) (Join.occurrencesList s.ctes js)
  | [] => reports_nil
  | j :: js => .both (Join.references_reports s role j) (Join.referencesList_reports s role js)

theorem Assignment.references_reports (s : Scope) :
    ∀ a : Assignment, Reports (a.references s) (a.occurrences s.ctes)
  | ⟨_, v⟩ => Expr.references_reports s v

theorem Assignment.referencesList_reports (s : Scope) :
    ∀ as : List Assignment, Reports (Assignment.referencesList s as) (Assignment.occurrencesList s.ctes as)
  | [] => reports_nil
  | a :: as => .both (Assignment.references_reports s a) (Assignment.referencesList_reports s as)

theorem Insert.references_reports (s : Scope) : ∀ i : Insert, Reports (i.references s) (i.occurrences s.ctes)
  | ⟨_, _, table, aliasName, _, _, source, assignments, _, _, _⟩ => by
    rw [Insert.references_eq]
    exact Reports.passing (.both (.both (reports_undeclared _ _ s.mainRole) (Query.referencesOption_reports s.nested source))
      (Assignment.referencesList_reports s assignments)) _

theorem Update.references_reports (s : Scope) : ∀ u : Update, Reports (u.references s) (u.occurrences s.ctes)
  | ⟨_, table, sources, _, assignments, selection, _⟩ =>
    Reports.passing (.four (TableTree.references_reports s s.mainRole s.joinRole table)
      (TableTree.referencesJoined_reports s sources) (Assignment.referencesList_reports s assignments)
      (Expr.referencesOption_reports s selection)) _

end

theorem Delete.references_reports (s : Scope) (d : Delete) : Reports (d.references s) (d.occurrences s.ctes) := by
  obtain ⟨_, _, tables, usingTables, selection, _, _⟩ := d
  exact Reports.passing (.three (TableTree.referencesFrom_reports s tables)
    (TableTree.referencesJoined_reports s usingTables) (Expr.referencesOption_reports s selection)) _

/-- The tables that a statement refers to are those met in it whose names are not declared, in order. -/
theorem Statement.references_reports (st : Statement) : Reports st.references st.occurrences := by
  cases st with
  | query q => exact Query.references_reports .outer q
  | insert i => exact Insert.references_reports .outer i
  | update u => exact Update.references_reports .outer u
  | delete d => exact Delete.references_reports .outer d
  | other => exact yields_error

namespace Table

/-! ## Completeness -/

/-- Every table written in the statement is in the set, unless its name is declared. -/
def Set.Complete (s : Set) (st : Statement) : Prop :=
  ∀ o ∈ st.occurrences, o.isDeclared = false → s.contains o.key = true

variable {st : Statement} {tables : Set}

theorem contains_tables_iff (h : st.tables = .ok tables) (k : Key) :
    tables.contains k = true ↔ ∃ o ∈ st.occurrences, o.isReported = true ∧ o.key = k := by
  obtain ⟨rs, hr, ht⟩ := bind_eq_ok.1 h
  cases ht
  have hkeys := Statement.references_reports st rs hr
  have hmem : (∃ r ∈ rs, r.key = k) ↔ k ∈ rs.map Reference.key := by simp
  rw [Set.contains_ofList, hmem, hkeys]
  simp [and_assoc]

/-- No table is missed if and only if each one that stands where the walk does not come is also written, under the
same alias, where it does. -/
theorem complete_tables_iff (st : Statement) (tables : Set) (h : st.tables = .ok tables) :
    tables.Complete st ↔ ∀ o ∈ st.occurrences, o.isMet = false → o.isDeclared = false →
      ∃ p ∈ st.occurrences, p.isReported = true ∧ p.key = o.key := by
  constructor
  · intro hc o ho _ hd
    exact (contains_tables_iff h o.key).1 (hc o ho hd)
  · intro hmet o ho hd
    rw [contains_tables_iff h]
    cases hm : o.isMet with
    | false => exact hmet o ho hm hd
    | true => exact ⟨o, ho, by simp [Occurrence.isReported, hm, hd], rfl⟩

/-- `SELECT * FROM t ORDER BY (SELECT * FROM name)`. -/
def orderedBy (name : String) : Statement :=
  let select (name : String) : SetExpr :=
    .select ⟨false, [], [.wildcard none []], none, [⟨.table [⟨name, none⟩] none ⟨[], false, []⟩ [], []⟩], [], none, [], none, []⟩
  .query ⟨false, [], select "t", [⟨.orderBy [⟨none, none, []⟩], [.subquery ⟨false, [], select name, []⟩]⟩]⟩

theorem complete_tables_orderedBy : (Set.ofList [⟨"t", none, .main⟩]).Complete (orderedBy "t") :=
  (complete_tables_iff (orderedBy "t") (Set.ofList [⟨"t", none, .main⟩]) (eq_ok_of_toOption (by decide +kernel))).2
    (by decide +kernel)

/-- The table of a query in ORDER BY is missed. -/
theorem not_complete_tables_orderedBy :
    (orderedBy "u").tables = .ok (Set.ofList [⟨"t", none, .main⟩]) ∧
      ¬(Set.ofList [⟨"t", none, .main⟩]).Complete (orderedBy "u") :=
  ⟨eq_ok_of_toOption (by decide +kernel), by unfold Set.Complete; decide +kernel⟩

end Table

end SqlTemplate
