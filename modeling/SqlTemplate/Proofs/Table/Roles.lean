/-
The roles of the tables that a statement refers to. Everything met in a nested query plays a part in that query only, and
a main table that is the first reference of all is the first entry of the set.
-/
import SqlTemplate.Proofs.Table.Sets
import SqlTemplate.Proofs.Tree.Gather
import SqlTemplate.Table.Resolve

namespace SqlTemplate

open Table (Role Reference Scope References)

namespace Table

/-- All references are to tables of nested queries. -/
def Inner (rs : List Reference) : Prop := ∀ r ∈ rs, r.role = .subquery

theorem inner_nil : Inner [] := by simp [Inner]

theorem Inner.append {rs ts : List Reference} (hr : Inner rs) (ht : Inner ts) : Inner (rs ++ ts) := by
  intro r h
  rcases List.mem_append.1 h with h | h
  · exact hr r h
  · exact ht r h

theorem inner_named (s : Scope) (name : ObjectName) (aliasName : Option String) :
    Inner (namedReference s .subquery name aliasName) := by
  unfold namedReference
  split <;> simp [Inner]

theorem inner_derived (aliasName : Option TableAlias) : Inner (derivedReference aliasName) := by
  cases aliasName <;> simp [Inner, derivedReference]

section

variable {x y z w : References}

theorem yields_inner_nil : Yields (.ok []) Inner := yields_ok inner_nil

theorem Yields.both (hx : Yields x Inner) (hy : Yields y Inner) : Yields (gather x y) Inner :=
  hx.gather hy fun _ _ => Inner.append

theorem Yields.three (hx : Yields x Inner) (hy : Yields y Inner) (hz : Yields z Inner) :
    Yields (do return (← x) ++ (← y) ++ (← z)) Inner := by
  rw [gather_three]
  exact both (both hx hy) hz

theorem Yields.four (hx : Yields x Inner) (hy : Yields y Inner) (hz : Yields z Inner) (hw : Yields w Inner) :
    Yields (do return (← x) ++ (← y) ++ (← z) ++ (← w)) Inner := by
  rw [gather_four]
  exact both (both (both hx hy) hz) hw

end

theorem Scope.mainRole_of_nested {s : Scope} (h : s.isNested = true) : s.mainRole = .subquery := if_pos h

theorem Scope.joinRole_of_nested {s : Scope} (h : s.isNested = true) : s.joinRole = .subquery := if_pos h

end Table

open Table

/-! ## The walk as gathering -/

theorem Join.references_eq (s : Scope) (role : Role) (isGlobal : Bool) (op : JoinOperator) (relation : Factor)
    (matching condition : Option Expr) (constraint : JoinConstraint) :
    Join.references s role ⟨isGlobal, op, relation, matching, condition, constraint⟩ =
      gather (relation.references s role) (if op.hasCondition then Expr.referencesOption s condition else .ok []) := by
  unfold Join.references gather
  cases op.hasCondition <;> rfl

theorem Insert.references_eq (s : Scope) (i : Insert) :
    i.references s = gather (gather (.ok [⟨ObjectName.print i.table, i.aliasName.map Ident.print, s.mainRole⟩])
      (Query.referencesOption s.nested i.source)) (Assignment.referencesList s i.assignments) := by
  obtain ⟨_, _, table, aliasName, _, _, source, assignments, _, _, _⟩ := i
  rw [Insert.references]
  cases Query.referencesOption s.nested source <;> rfl

theorem Select.references_eq (s : Scope) (sel : Select) :
    sel.references s = gather (gather (gather (TableTree.referencesFrom s sel.tables)
      (SelectItem.referencesList s sel.projection)) (Expr.referencesOption s sel.selection))
      (Expr.referencesOption s sel.having) := by
  obtain ⟨_, _, projection, _, trees, _, selection, _, having, _⟩ := sel
  rw [Select.references, gather_four]

theorem Update.references_eq (s : Scope) (u : Update) :
    u.references s = gather (gather (gather (u.table.references s s.mainRole s.joinRole)
      (TableTree.referencesJoined s u.sources)) (Assignment.referencesList s u.assignments))
      (Expr.referencesOption s u.selection) := by
  obtain ⟨_, table, sources, _, assignments, selection, _⟩ := u
  rw [Update.references, gather_four]

theorem Delete.references_eq (s : Scope) (d : Delete) :
    d.references s = gather (gather (TableTree.referencesFrom s d.tables) (TableTree.referencesJoined s d.usingTables))
      (Expr.referencesOption s d.selection) := by
  rw [Delete.references, gather_three]

/-! ## Nested queries -/

mutual

theorem Expr.references_inner (s : Scope) : ∀ e : Expr, Yields (e.references s) Inner
  | .ident _ => yields_inner_nil
  | .compound _ => yields_inner_nil
  | .value _ => yields_inner_nil
  | .nested e => Expr.references_inner s e
  | .tuple items => Expr.referencesList_inner s items
  | .unary _ e => Expr.references_inner s e
  | .binary l _ r => Yields.both (Expr.references_inner s l) (Expr.references_inner s r)
  | .test e _ _ => Expr.references_inner s e
  | .distinctFrom l _ r => Yields.both (Expr.references_inner s l) (Expr.references_inner s r)
  | .inList e _ items => Yields.both (Expr.references_inner s e) (Expr.referencesList_inner s items)
  | .inSubquery e _ q => Yields.both (Query.references_inner s.nested rfl q) (Expr.references_inner s e)
  | .between e _ low high =>
    Yields.three (Expr.references_inner s e) (Expr.references_inner s low) (Expr.references_inner s high)
  | .pattern e _ _ _ p _ => Yields.both (Expr.references_inner s e) (Expr.references_inner s p)
  | .quantified l _ _ r => Yields.both (Expr.references_inner s l) (Expr.references_inner s r)
  | .cast _ e _ _ => Expr.references_inner s e
  | .case operand branches otherwise =>
    Yields.three (Expr.referencesOption_inner s operand) (Branch.referencesList_inner s branches)
      (Expr.referencesOption_inner s otherwise)
  | .subquery q => Query.references_inner s.nested rfl q
  | .exists_ _ q => Query.references_inner s.nested rfl q
  | .call _ _ args _ => Args.references_inner s args
  | .form _ _ => yields_inner_nil

theorem Expr.referencesList_inner (s : Scope) : ∀ es : List Expr, Yields (Expr.referencesList s es) Inner
  | [] => yields_inner_nil
  | e :: es => Yields.both (Expr.references_inner s e) (Expr.referencesList_inner s es)

theorem Expr.referencesOption_inner (s : Scope) : ∀ e : Option Expr, Yields (Expr.referencesOption s e) Inner
  | none => yields_inner_nil
  | some e => Expr.references_inner s e

theorem Expr.referencesRows_inner (s : Scope) : ∀ rows : List (List Expr), Yields (Expr.referencesRows s rows) Inner
  | [] => yields_inner_nil
  | row :: rows => Yields.both (Expr.referencesList_inner s row) (Expr.referencesRows_inner s rows)

theorem Branch.references_inner (s : Scope) : ∀ b : Branch, Yields (b.references s) Inner
  | ⟨condition, result⟩ => Yields.both (Expr.references_inner s condition) (Expr.references_inner s result)

theorem Branch.referencesList_inner (s : Scope) : ∀ bs : List Branch, Yields (Branch.referencesList s bs) Inner
  | [] => yields_inner_nil
  | b :: bs => Yields.both (Branch.references_inner s b) (Branch.referencesList_inner s bs)

theorem Args.references_inner (s : Scope) : ∀ args : Args, Yields (args.references s) Inner
  | .absent => yields_inner_nil
  | .subquery q => Query.references_inner s.nested rfl q
  | .list _ items _ => Arg.referencesList_inner s items

theorem Arg.references_inner (s : Scope) : ∀ a : Arg, Yields (a.references s) Inner
  | .expr e => Expr.references_inner s e
  | .named _ _ e => Expr.references_inner s e
  | .star _ => yields_inner_nil
  | .namedStar _ _ _ => yields_inner_nil

theorem Arg.referencesList_inner (s : Scope) : ∀ as : List Arg, Yields (Arg.referencesList s as) Inner
  | [] => yields_inner_nil
  | a :: as => Yields.both (Arg.references_inner s a) (Arg.referencesList_inner s as)

theorem Query.references_inner (s : Scope) (hs : s.isNested = true) : ∀ q : Query, Yields (q.references s) Inner
  | ⟨_, ctes, body, _⟩ =>
    Yields.both (SetExpr.references_inner (s.declaring ctes) hs body)
      (Cte.referencesList_inner (s.declaring ctes).nested rfl ctes)

theorem Query.referencesOption_inner (s : Scope) (hs : s.isNested = true) :
    ∀ q : Option Query, Yields (Query.referencesOption s q) Inner
  | none => yields_inner_nil
  | some q => Query.references_inner s hs q

theorem Cte.references_inner (s : Scope) (hs : s.isNested = true) : ∀ c : Cte, Yields (c.references s) Inner
  | ⟨_, _, q, _⟩ => Query.references_inner s hs q

theorem Cte.referencesList_inner (s : Scope) (hs : s.isNested = true) :
    ∀ cs : List Cte, Yields (Cte.referencesList s cs) Inner
  | [] => yields_inner_nil
  | c :: cs => Yields.both (Cte.references_inner s hs c) (Cte.referencesList_inner s hs cs)

theorem SetExpr.references_inner (s : Scope) (hs : s.isNested = true) : ∀ b : SetExpr, Yields (b.references s) Inner
  | .select sel => Select.references_inner s hs sel
  | .query q => Query.references_inner s hs q
  | .operation l _ _ r => Yields.both (SetExpr.references_inner s hs l) (SetExpr.references_inner s.nested rfl r)
  | .values _ rows => Expr.referencesRows_inner s rows
  | .table _ => yields_error
  | .insert i => Insert.references_inner s hs i
  | .update u => Update.references_inner s hs u
  | .delete _ => yields_error

theorem Select.references_inner (s : Scope) (hs : s.isNested = true) : ∀ sel : Select, Yields (sel.references s) Inner
  | ⟨_, _, projection, _, trees, _, selection, _, having, _⟩ =>
    Yields.four (TableTree.referencesFrom_inner s hs trees) (SelectItem.referencesList_inner s projection)
      (Expr.referencesOption_inner s selection) (Expr.referencesOption_inner s having)

theorem SelectItem.references_inner (s : Scope) : ∀ i : SelectItem, Yields (i.references s) Inner
  | .expr e _ => Expr.references_inner s e
  | .wildcard _ _ => yields_inner_nil

theorem SelectItem.referencesList_inner (s : Scope) : ∀ is : List SelectItem, Yields (SelectItem.referencesList s is) Inner
  | [] => yields_inner_nil
  | i :: is => Yields.both (SelectItem.references_inner s i) (SelectItem.referencesList_inner s is)

theorem TableTree.references_inner (s : Scope) :
    ∀ t : TableTree, Yields (t.references s .subquery .subquery) Inner
  | ⟨relation, joins⟩ => Yields.both (Factor.references_inner s relation) (Join.referencesList_inner s joins)

theorem TableTree.referencesJoined_inner (s : Scope) (hs : s.isNested = true) :
    ∀ ts : List TableTree, Yields (TableTree.referencesJoined s ts) Inner
  | [] => yields_inner_nil
  | t :: ts => by
    have ht := TableTree.references_inner s t
    rw [← Scope.joinRole_of_nested hs] at ht
    exact Yields.both ht (TableTree.referencesJoined_inner s hs ts)

theorem TableTree.referencesFrom_inner (s : Scope) (hs : s.isNested = true) :
    ∀ ts : List TableTree, Yields (TableTree.referencesFrom s ts) Inner
  | [] => yields_inner_nil
  | t :: ts => by
    have ht : Yields (t.references s s.mainRole s.joinRole) Inner := by
      rw [Scope.mainRole_of_nested hs, Scope.joinRole_of_nested hs]
      exact TableTree.references_inner s t
    exact Yields.both ht (TableTree.referencesJoined_inner s hs ts)

theorem Factor.references_inner (s : Scope) : ∀ f : Factor, Yields (f.references s .subquery) Inner
  | .table name _ _ _ => yields_ok (inner_named s name _)
  | .tableCall _ _ _ _ _ => yields_error
  | .derived _ q aliasName => Yields.both (yields_ok (inner_derived aliasName)) (Query.references_inner s.nested rfl q)
  | .nested t _ => TableTree.references_inner s t
  | .computed _ _ _ => yields_error
  | .turned _ _ _ => yields_error

theorem Join.references_inner (s : Scope) : ∀ j : Join, Yields (j.references s .subquery) Inner
  | ⟨_, op, relation, _, condition, _⟩ => by
    rw [Join.references_eq]
    have hon : Yields (if op.hasCondition then Expr.referencesOption s condition else .ok []) Inner := by
      split
      · exact Expr.referencesOption_inner s condition
      · exact yields_inner_nil
    exact Yields.both (Factor.references_inner s relation) hon

theorem Join.referencesList_inner (s : Scope) : ∀ js : List Join, Yields (Join.referencesList s .subquery js) Inner
  | [] => yields_inner_nil
  | j :: js => Yields.both (Join.references_inner s j) (Join.referencesList_inner s js)

theorem Assignment.references_inner (s : Scope) : ∀ a : Assignment, Yields (a.references s) Inner
  | ⟨_, v⟩ => Expr.references_inner s v

theorem Assignment.referencesList_inner (s : Scope) :
    ∀ as : List Assignment, Yields (Assignment.referencesList s as) Inner
  | [] => yields_inner_nil
  | a :: as => Yields.both (Assignment.references_inner s a) (Assignment.referencesList_inner s as)

theorem Insert.references_inner (s : Scope) (hs : s.isNested = true) : ∀ i : Insert, Yields (i.references s) Inner
  | ⟨_, _, table, aliasName, _, _, source, assignments, _, _, _⟩ => by
    have htarget : Table.Inner [⟨ObjectName.print table, aliasName.map Ident.print, s.mainRole⟩] := by
      simp [Table.Inner, Scope.mainRole_of_nested hs]
    rw [Insert.references_eq]
    exact Yields.both (Yields.both (yields_ok htarget) (Query.referencesOption_inner s.nested rfl source))
      (Assignment.referencesList_inner s assignments)

theorem Update.references_inner (s : Scope) (hs : s.isNested = true) : ∀ u : Update, Yields (u.references s) Inner
  | ⟨_, table, sources, _, assignments, selection, _⟩ => by
    have ht : Yields (table.references s s.mainRole s.joinRole) Inner := by
      rw [Scope.mainRole_of_nested hs, Scope.joinRole_of_nested hs]
      exact TableTree.references_inner s table
    exact Yields.four ht (TableTree.referencesJoined_inner s hs sources) (Assignment.referencesList_inner s assignments)
      (Expr.referencesOption_inner s selection)

end

namespace Table

/-! ## The main table -/

/-- No reference is to the main table. -/
def Lesser (rs : List Reference) : Prop := ∀ r ∈ rs, r.role ≠ .main

/-- Only the first reference can be to the main table. -/
def MainFirst (rs : List Reference) : Prop := Lesser rs.tail

theorem Inner.lesser {rs : List Reference} (h : Inner rs) : Lesser rs := by
  intro r hr
  rw [h r hr]
  decide

theorem Lesser.append {rs ts : List Reference} (hr : Lesser rs) (ht : Lesser ts) : Lesser (rs ++ ts) := by
  intro r h
  rcases List.mem_append.1 h with h | h
  · exact hr r h
  · exact ht r h

theorem Lesser.mainFirst {rs : List Reference} (h : Lesser rs) : MainFirst rs :=
  fun r hr => h r (List.mem_of_mem_tail hr)

theorem MainFirst.append {rs ts : List Reference} (hr : MainFirst rs) (ht : Lesser ts) : MainFirst (rs ++ ts) := by
  cases rs with
  | nil => exact ht.mainFirst
  | cons r rs => exact Lesser.append hr ht

/-- The main table, if it is in the set, is its first entry. -/
theorem MainFirst.head? {rs : List Reference} (h : MainFirst rs) {r : Reference} (hr : r ∈ (Set.ofList rs).entries)
    (hrole : r.role = .main) : (Set.ofList rs).entries.head? = some r := by
  have hmem := Set.mem_of_mem_entries hr
  rw [Set.head?_ofList]
  cases rs with
  | nil => cases hmem
  | cons t rs =>
    rcases List.mem_cons.1 hmem with rfl | hmem
    · rfl
    · exact absurd hrole (h r hmem)

end Table

end SqlTemplate
