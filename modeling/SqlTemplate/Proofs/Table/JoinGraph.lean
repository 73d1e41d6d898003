/-
Statements over plain tables. Where relations are combined by commas, joins and parentheses only, and no query is nested
anywhere, the tables of a statement are read off from left to right: the first one is the main table, all others are
joined to it, and each is kept where its key comes first.
-/
import SqlTemplate.Proofs.Table.Own
import SqlTemplate.Proofs.Tree.Nested

namespace SqlTemplate

open Table (Scope)

/-! ## Expressions and the queries in them -/

mutual

theorem Expr.references_enters (s : Scope) : ∀ e : Expr, Enters (·.references s.nested) (e.references s) e.subterms
  | .ident _ => .through rfl .nil
  | .compound _ => .through rfl .nil
  | .value _ => .through rfl .nil
  | .nested e => .through rfl (Expr.references_enters s e)
  | .tuple items => .through rfl (Expr.referencesList_enters s items)
  | .unary _ e => .through rfl (Expr.references_enters s e)
  | .binary l _ r => .through rfl (.both (Expr.references_enters s l) (Expr.references_enters s r))
  | .test e _ _ => .through rfl (Expr.references_enters s e)
  | .distinctFrom l _ r => .through rfl (.both (Expr.references_enters s l) (Expr.references_enters s r))
  | .inList e _ items => .through rfl (.both (Expr.references_enters s e) (Expr.referencesList_enters s items))
  | .inSubquery e _ _ => .query rfl (Expr.references_enters s e)
  | .between e _ low high =>
    .through rfl (.three (Expr.references_enters s e) (Expr.references_enters s low) (Expr.references_enters s high))
  | .pattern e _ _ _ p _ => .through rfl (.both (Expr.references_enters s e) (Expr.references_enters s p))
  | .quantified l _ _ r => .through rfl (.both (Expr.references_enters s l) (Expr.references_enters s r))
  | .cast _ e _ _ => .through rfl (Expr.references_enters s e)
  | .case operand branches otherwise =>
    .through rfl (.three (Expr.referencesOption_enters s operand) (Branch.referencesList_enters s branches)
      (Expr.referencesOption_enters s otherwise))
  | .subquery _ => .whole rfl
  | .exists_ _ _ => .whole rfl
  | .call _ _ .absent _ => .through rfl .nil
  | .call _ _ (.subquery _) _ => .whole rfl
  | .call _ _ (.list _ items _) _ => .through rfl (Arg.referencesList_enters s items)
  | .form _ _ => .through rfl .nil

theorem Expr.referencesList_enters (s : Scope) :
    ∀ es : List Expr, Enters (·.references s.nested) (Expr.referencesList s es) (Expr.descendantsList es)
  | [] => .nil
  | e :: es => .both (Expr.references_enters s e) (Expr.referencesList_enters s es)

theorem Expr.referencesOption_enters (s : Scope) :
    ∀ e : Option Expr, Enters (·.references s.nested) (Expr.referencesOption s e) (Expr.descendantsOption e)
  | none => .nil
  | some e => Expr.references_enters s e

theorem Branch.references_enters (s : Scope) : ∀ b : Branch, Enters (·.references s.nested) (b.references s) b.descendants
  | ⟨condition, result⟩ => .both (Expr.references_enters s condition) (Expr.references_enters s result)

theorem Branch.referencesList_enters (s : Scope) :
    ∀ bs : List Branch, Enters (·.references s.nested) (Branch.referencesList s bs) (Branch.descendantsList bs)
  | [] => .nil
  | b :: bs => .both (Branch.references_enters s b) (Branch.referencesList_enters s bs)

theorem Arg.references_enters (s : Scope) : ∀ a : Arg, Enters (·.references s.nested) (a.references s) a.descendants
  | .expr e => Expr.references_enters s e
  | .named _ _ e => Expr.references_enters s e
  | .star _ => .nil
  | .namedStar _ _ _ => .nil

theorem Arg.referencesList_enters (s : Scope) :
    ∀ as : List Arg, Enters (·.references s.nested) (Arg.referencesList s as) (Arg.descendantsList as)
  | [] => .nil
  | a :: as => .both (Arg.references_enters s a) (Arg.referencesList_enters s as)

end

/-- The tables of an expression are those of the queries nested in it. -/
theorem Expr.references_eq (s : Scope) (e : Expr) : e.references s = Query.each (·.references s.nested) e.nestedQueries :=
  Expr.references_enters s e

/-! ## Join graphs -/

open Table

def Expr.isQueryFree (e : Expr) : Bool := e.nestedQueries.isEmpty

theorem Expr.references_of_isQueryFree {e : Expr} (s : Scope) (h : e.isQueryFree = true) : e.references s = .ok [] := by
  rw [Expr.references_eq, List.isEmpty_iff.1 h]
  rfl

theorem Expr.referencesOption_of_isQueryFree {e : Option Expr} (s : Scope) (h : e.all Expr.isQueryFree = true) :
    Expr.referencesOption s e = .ok [] := by
  cases e with
  | none => rfl
  | some e => exact Expr.references_of_isQueryFree s h

mutual

/-- A plain table, or plain tables joined in parentheses; ON holds no query. -/
def Factor.isGraph : Factor → Bool
  | .table _ _ _ _ => true
  | .tableCall _ _ _ _ _ => false
  | .derived _ _ _ => false
  | .nested t _ => t.isGraph
  | .computed _ _ _ => false
  | .turned _ _ _ => false

def TableTree.isGraph : TableTree → Bool
  | ⟨relation, joins⟩ => relation.isGraph && Join.isGraphList joins

def Join.isGraph : Join → Bool
  | ⟨_, _, relation, _, condition, _⟩ => relation.isGraph && condition.all Expr.isQueryFree

def Join.isGraphList : List Join → Bool
  | [] => true
  | j :: js => j.isGraph && Join.isGraphList js

end

def SelectItem.isQueryFree : SelectItem → Bool
  | .expr e _ => e.isQueryFree
  | .wildcard _ _ => true

def Select.isGraph (s : Select) : Bool :=
  s.tables.all TableTree.isGraph && s.projection.all SelectItem.isQueryFree && s.selection.all Expr.isQueryFree &&
    s.having.all Expr.isQueryFree

def Update.isGraph (u : Update) : Bool :=
  u.table.isGraph && u.sources.all TableTree.isGraph && u.assignments.all (·.value.isQueryFree) &&
    u.selection.all Expr.isQueryFree

/-- Rows are deleted from one table at least. -/
def Delete.isGraph (d : Delete) : Bool :=
  !d.tables.isEmpty && d.tables.all TableTree.isGraph && d.usingTables.all TableTree.isGraph &&
    d.selection.all Expr.isQueryFree

mutual

/-- A SELECT or an UPDATE over plain tables, with or without parentheses around it. -/
def Query.isGraph : Query → Bool
  | ⟨_, ctes, body, _⟩ => ctes.isEmpty && body.isGraph

def SetExpr.isGraph : SetExpr → Bool
  | .select s => s.isGraph
  | .query q => q.isGraph
  | .operation _ _ _ _ => false
  | .values _ _ => false
  | .table _ => false
  | .insert _ => false
  | .update u => u.isGraph
  | .delete _ => false

end

/-- A SELECT, UPDATE or DELETE over plain tables, without WITH and without queries nested in it. -/
def Statement.isGraph : Statement → Bool
  | .query q => q.isGraph
  | .insert _ => false
  | .update u => u.isGraph
  | .delete d => d.isGraph
  | .other => false

namespace Table

def Named.as (n : Named) (role : Role) : Reference := ⟨n.name, n.aliasName, role⟩

/-- The first table in `role`, the others as joined ones. -/
def ranked (role : Role) : List Named → List Reference
  | [] => []
  | n :: ns => n.as role :: ns.map (·.as .join)

theorem ranked_join (ns : List Named) : ranked .join ns = ns.map (·.as .join) := by
  cases ns <;> rfl

theorem ranked_append (role : Role) {ms : List Named} (h : ms ≠ []) (ns : List Named) :
    ranked role (ms ++ ns) = ranked role ms ++ ns.map (·.as .join) := by
  cases ms with
  | nil => exact absurd rfl h
  | cons m ms => rw [List.cons_append, ranked, ranked, List.map_append, List.cons_append]

theorem undeclared_outer (ns : List Named) : undeclared .outer ns = ns := by
  rw [undeclared, List.filter_eq_self]
  intro n _
  simp [Scope.declares, Scope.outer]

theorem namedReference_outer (role : Role) (name : ObjectName) (aliasName : Option String) :
    namedReference .outer role name aliasName = ranked role [⟨name.print, aliasName⟩] := by
  have hd : Scope.declares .outer name.print = false := by simp [Scope.declares, Scope.outer]
  rw [namedReference, hd]
  rfl

theorem innerJoinRole_eq {role : Role} (h : role ≠ .subquery) : innerJoinRole role = .join := if_neg (by simpa using h)

end Table

mutual

theorem Factor.named_ne_nil : ∀ {f : Factor}, f.isGraph = true → f.named ≠ []
  | .table _ _ _ _, _ => List.cons_ne_nil _ _
  | .nested _ _, h => TableTree.named_ne_nil h

theorem TableTree.named_ne_nil : ∀ {t : TableTree}, t.isGraph = true → t.named ≠ []
  | ⟨_, _⟩, h => List.append_ne_nil_of_left_ne_nil (Factor.named_ne_nil (Bool.and_eq_true_iff.1 h).1) _

end

mutual

theorem Factor.references_graph {role : Role} (hrole : role ≠ .subquery) :
    ∀ {f : Factor}, f.isGraph = true → f.references .outer role = .ok (ranked role f.named)
  | .table name _ _ _, _ => congrArg Except.ok (namedReference_outer role name _)
  | .nested t _, h => by
    have ht := TableTree.references_graph hrole h
    rwa [← innerJoinRole_eq hrole] at ht

/-- The relation comes first, and all that is joined to it follows. -/
theorem TableTree.references_graph {role : Role} (hrole : role ≠ .subquery) :
    ∀ {t : TableTree}, t.isGraph = true → t.references .outer role .join = .ok (ranked role t.named)
  | ⟨relation, joins⟩, h => by
    obtain ⟨hrelation, hjoins⟩ := Bool.and_eq_true_iff.1 h
    show gather (relation.references .outer role) (Join.referencesList .outer .join joins) = _
    rw [Factor.references_graph hrole hrelation, Join.referencesList_graph hjoins, gather_ok, TableTree.named,
      ranked_append role (Factor.named_ne_nil hrelation)]

theorem Join.references_graph :
    ∀ {j : Join}, j.isGraph = true → j.references .outer .join = .ok (j.named.map (·.as .join))
  | ⟨_, op, relation, _, condition, _⟩, h => by
    obtain ⟨hrelation, hcondition⟩ := Bool.and_eq_true_iff.1 h
    rw [Join.references_eq, Factor.references_graph (by decide) hrelation, ranked_join,
      Expr.referencesOption_of_isQueryFree .outer hcondition, ite_self, gather_nil]
    rfl

theorem Join.referencesList_graph :
    ∀ {js : List Join}, Join.isGraphList js = true →
      Join.referencesList .outer .join js = .ok ((Join.namedList js).map (·.as .join))
  | [], _ => rfl
  | j :: js, h => by
    obtain ⟨hj, hjs⟩ := Bool.and_eq_true_iff.1 h
    show gather (j.references .outer .join) (Join.referencesList .outer .join js) = _
    rw [Join.references_graph hj, Join.referencesList_graph hjs, gather_ok, Join.namedList, List.map_append]

end

theorem TableTree.referencesJoined_graph {ts : List TableTree} (h : ts.all TableTree.isGraph = true) :
    TableTree.referencesJoined .outer ts = .ok ((TableTree.namedList ts).map (·.as .join)) := by
  induction ts with
  | nil => rfl
  | cons t ts ih =>
    obtain ⟨ht, hts⟩ := Bool.and_eq_true_iff.1 (List.all_cons ▸ h)
    show gather (t.references .outer .join .join) (TableTree.referencesJoined .outer ts) = _
    rw [TableTree.references_graph (by decide) ht, ih hts, gather_ok, ranked_join, ← List.map_append]
    rfl

/-- A relation and then others, which are all joined to it. -/
theorem TableTree.references_graph_joined {t : TableTree} {ts : List TableTree} (ht : t.isGraph = true)
    (hts : ts.all TableTree.isGraph = true) :
    gather (t.references .outer .main .join) (TableTree.referencesJoined .outer ts) =
      .ok (ranked .main (t.named ++ TableTree.namedList ts)) := by
  rw [TableTree.references_graph (by decide) ht, TableTree.referencesJoined_graph hts, gather_ok,
    ranked_append .main (TableTree.named_ne_nil ht)]

theorem TableTree.referencesFrom_graph {ts : List TableTree} (h : ts.all TableTree.isGraph = true) :
    TableTree.referencesFrom .outer ts = .ok (ranked .main (TableTree.namedList ts)) := by
  cases ts with
  | nil => rfl
  | cons t ts =>
    obtain ⟨ht, hts⟩ := Bool.and_eq_true_iff.1 (List.all_cons ▸ h)
    exact TableTree.references_graph_joined ht hts

theorem SelectItem.referencesList_of_isQueryFree {is : List SelectItem} (s : Scope)
    (h : is.all SelectItem.isQueryFree = true) : SelectItem.referencesList s is = .ok [] := by
  induction is with
  | nil => rfl
  | cons i is ih =>
    obtain ⟨hi, his⟩ := Bool.and_eq_true_iff.1 (List.all_cons ▸ h)
    have hitem : i.references s = .ok [] := by
      cases i with
      | expr e _ => exact Expr.references_of_isQueryFree s hi
      | wildcard _ _ => rfl
    show gather (i.references s) (SelectItem.referencesList s is) = _
    rw [hitem, ih his, nil_gather]

theorem Assignment.referencesList_of_isQueryFree {as : List Assignment} (s : Scope)
    (h : as.all (·.value.isQueryFree) = true) : Assignment.referencesList s as = .ok [] := by
  induction as with
  | nil => rfl
  | cons a as ih =>
    obtain ⟨ha, has⟩ := Bool.and_eq_true_iff.1 (List.all_cons ▸ h)
    have hvalue : a.references s = .ok [] := by
      cases a
      exact Expr.references_of_isQueryFree s ha
    show gather (a.references s) (Assignment.referencesList s as) = _
    rw [hvalue, ih has, nil_gather]

theorem Select.references_graph {sel : Select} (h : sel.isGraph = true) :
    sel.references .outer = .ok (ranked .main ((SetExpr.select sel).own .outer)) := by
  simp only [Select.isGraph, Bool.and_eq_true] at h
  obtain ⟨⟨⟨htables, hprojection⟩, hselection⟩, hhaving⟩ := h
  rw [Select.references_eq, TableTree.referencesFrom_graph htables,
    SelectItem.referencesList_of_isQueryFree .outer hprojection, Expr.referencesOption_of_isQueryFree .outer hselection,
    Expr.referencesOption_of_isQueryFree .outer hhaving, SetExpr.own, undeclared_outer]
  simp only [gather_nil]

theorem Update.references_graph {u : Update} (h : u.isGraph = true) :
    u.references .outer = .ok (ranked .main ((SetExpr.update u).own .outer)) := by
  simp only [Update.isGraph, Bool.and_eq_true] at h
  obtain ⟨⟨⟨htable, hsources⟩, hassignments⟩, hselection⟩ := h
  have hrelations : gather (u.table.references .outer .main .join) (TableTree.referencesJoined .outer u.sources) = _ :=
    TableTree.references_graph_joined htable hsources
  rw [Update.references_eq, Assignment.referencesList_of_isQueryFree .outer hassignments,
    Expr.referencesOption_of_isQueryFree .outer hselection, gather_nil, gather_nil, SetExpr.own, undeclared_outer]
  exact hrelations

theorem TableTree.namedList_ne_nil {ts : List TableTree} (hts : ts ≠ []) (h : ts.all TableTree.isGraph = true) :
    TableTree.namedList ts ≠ [] := by
  cases ts with
  | nil => exact absurd rfl hts
  | cons t ts => exact List.append_ne_nil_of_left_ne_nil (TableTree.named_ne_nil (Bool.and_eq_true_iff.1 h).1) _

theorem Delete.references_graph {d : Delete} (h : d.isGraph = true) :
    d.references .outer = .ok (ranked .main ((SetExpr.delete d).own .outer)) := by
  simp only [Delete.isGraph, Bool.and_eq_true, Bool.not_eq_true', List.isEmpty_eq_false_iff] at h
  obtain ⟨⟨⟨hne, htables⟩, husing⟩, hselection⟩ := h
  rw [Delete.references_eq, Expr.referencesOption_of_isQueryFree .outer hselection, gather_nil,
    TableTree.referencesFrom_graph htables, TableTree.referencesJoined_graph husing, gather_ok, SetExpr.own,
    undeclared_outer, ranked_append .main (TableTree.namedList_ne_nil hne htables)]

mutual

theorem Query.references_graph :
    ∀ {q : Query}, q.isGraph = true → q.references .outer = .ok (ranked .main (q.own .outer))
  | ⟨_, [], body, _⟩, h => by
    show gather (body.references .outer) (.ok []) = _
    rw [gather_nil]
    exact SetExpr.references_graph h

theorem SetExpr.references_graph :
    ∀ {b : SetExpr}, b.isGraph = true → b.references .outer = .ok (ranked .main (b.own .outer))
  | .select _, h => Select.references_graph h
  | .query _, h => Query.references_graph h
  | .update _, h => Update.references_graph h

end

theorem Statement.references_graph {st : Statement} (h : st.isGraph = true) :
    st.references = .ok (ranked .main st.own) := by
  cases st with
  | query q => exact Query.references_graph h
  | insert i => cases h
  | update u => exact Update.references_graph h
  | delete d => exact Delete.references_graph h
  | other => cases h

namespace Table

theorem map_key_ranked (role : Role) (ns : List Named) : (ranked role ns).map Reference.key = ns.map Named.key := by
  cases ns with
  | nil => rfl
  | cons n ns =>
    rw [ranked, List.map_cons, List.map_cons, List.map_map]
    rfl

/-- The tables of a join graph are resolved, and they are its plain tables from left to right: the first is the main
table, the others are joined, and of those with the same key the first is kept. If all keys differ, all are kept. -/
theorem tables_of_isGraph (st : Statement) (h : st.isGraph = true) :
    st.tables = .ok ⟨firsts (ranked .main st.own)⟩ ∧
      ((st.own.map Named.key).Nodup → st.tables = .ok ⟨ranked .main st.own⟩ ∧
        (ranked .main st.own).length = st.own.length) := by
  have hentries : Set.ofList (ranked .main st.own) = ⟨firsts (ranked .main st.own)⟩ :=
    Set.eq_of_entries (Set.entries_ofList _)
  have htables : st.tables = .ok ⟨firsts (ranked .main st.own)⟩ := by
    rw [Statement.tables, Statement.references_graph h, ← hentries]
    rfl
  refine ⟨htables, fun hnodup => ⟨?_, ?_⟩⟩
  · rw [htables, firsts_of_nodup (by rwa [map_key_ranked])]
  · have hlength := congrArg List.length (map_key_ranked .main st.own)
    rwa [List.length_map, List.length_map] at hlength

/-- `DELETE FROM (a JOIN (b JOIN c ON ..) ON ..), [d] USING B JOIN e`, where the second `b` is left out. -/
theorem tables_of_isGraph_nested :
    let table (name : Ident) : Factor := .table [name] none ⟨[], false, []⟩ []
    let on (e : Factor) : Join := ⟨false, .join, e, none, some (.binary (.ident ⟨"x", none⟩) .eq (.ident ⟨"y", none⟩)), .none⟩
    let inner : Factor := .nested ⟨table ⟨"b", none⟩, [on (table ⟨"c", none⟩)]⟩ none
    let st := Statement.delete ⟨[], true,
      [⟨.nested ⟨table ⟨"a", none⟩, [on inner]⟩ none, []⟩, ⟨table ⟨"d", some '['⟩, []⟩],
      [⟨table ⟨"B", none⟩, [⟨false, .cross, table ⟨"e", none⟩, none, none, .none⟩]⟩], none, [], []⟩
    st.isGraph = true ∧ st.tables = .ok ⟨[⟨"a", none, .main⟩, ⟨"b", none, .join⟩, ⟨"c", none, .join⟩,
      ⟨"[d]", none, .join⟩, ⟨"e", none, .join⟩]⟩ := by
  intro table on inner st
  have hgraph : st.isGraph = true := by decide +kernel
  refine ⟨hgraph, (tables_of_isGraph st hgraph).1.trans ?_⟩
  exact congrArg (fun rs => Except.ok (Set.mk rs)) (by decide +kernel)

end Table

end SqlTemplate
