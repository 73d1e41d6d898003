/-
The tables of a statement itself: those that stand in its own relations and in no query nested in it. Of these the
first relation is the main table and comes before all others, and what is met anywhere else plays a part in a nested
query only.
-/
import SqlTemplate.Proofs.Table.FirstWins
import SqlTemplate.Proofs.Table.Roles
import Mathlib.Data.List.Nodup
import Mathlib.Data.List.Perm.Subperm

namespace SqlTemplate

open Table (Role Reference Scope References Key Inner)

namespace Table

/-- A table as it is written: its name and its alias. -/
structure Named where
  name : String
  aliasName : Option String
deriving DecidableEq

def Named.key (n : Named) : Key := keyOf n.name n.aliasName

def Reference.named (r : Reference) : Named := ⟨r.name, r.aliasName⟩

/-- The tables whose names are not those of WITH queries. -/
def undeclared (s : Scope) (ns : List Named) : List Named := ns.filter fun n => !s.declares n.name

theorem undeclared_append (s : Scope) (ms ns : List Named) :
    undeclared s (ms ++ ns) = undeclared s ms ++ undeclared s ns :=
  List.filter_append ms ns

end Table

open Table

/-! ## Own tables -/

mutual

/-- The tables that a relation is made of, from left to right, those of nested queries left out. -/
def Factor.named : Factor → List Named
  | .table name aliasName _ _ => [⟨name.print, aliasName.map TableAlias.text⟩]
  | .tableCall _ _ _ _ _ => []
  | .derived _ _ _ => []
  | .nested t _ => t.named
  | .computed _ _ _ => []
  | .turned _ _ _ => []

def TableTree.named : TableTree → List Named
  | ⟨relation, joins⟩ => relation.named ++ Join.namedList joins

def Join.named : Join → List Named
  | ⟨_, _, relation, _, _, _⟩ => relation.named

def Join.namedList : List Join → List Named
  | [] => []
  | j :: js => j.named ++ Join.namedList js

end

def TableTree.namedList (ts : List TableTree) : List Named := ts.flatMap TableTree.named

mutual

/-- The table that a relation begins with, parentheses around joins looked through. -/
def Factor.first? : Factor → Option Named
  | .table name aliasName _ _ => some ⟨name.print, aliasName.map TableAlias.text⟩
  | .tableCall _ _ _ _ _ => none
  | .derived _ _ _ => none
  | .nested t _ => t.first?
  | .computed _ _ _ => none
  | .turned _ _ _ => none

def TableTree.first? : TableTree → Option Named
  | ⟨relation, _⟩ => relation.first?

end

/-- The table that a FROM list begins with. -/
def TableTree.firstOf? (ts : List TableTree) : Option Named := ts.head?.bind TableTree.first?

def Insert.target (i : Insert) : Named := ⟨i.table.print, i.aliasName.map Ident.print⟩

mutual

/-- The table that a query is about: that of the leftmost branch of set operations. -/
def Query.first? : Query → Option Named
  | ⟨_, _, body, _⟩ => body.first?

def SetExpr.first? : SetExpr → Option Named
  | .select s => TableTree.firstOf? s.tables
  | .query q => q.first?
  | .operation l _ _ _ => l.first?
  | .values _ _ => none
  | .table _ => none
  | .insert i => some i.target
  | .update u => u.table.first?
  | .delete d => TableTree.firstOf? d.tables

end

mutual

/-- The tables of a query itself: those of the leftmost branch of set operations, WITH queries left out. -/
def Query.own (s : Scope) : Query → List Named
  | ⟨_, ctes, body, _⟩ => body.own (s.declaring ctes)

def SetExpr.own (s : Scope) : SetExpr → List Named
  | .select sel => undeclared s (TableTree.namedList sel.tables)
  | .query q => q.own s
  | .operation l _ _ _ => l.own s
  | .values _ _ => []
  | .table _ => []
  | .insert i => [i.target]
  | .update u => undeclared s (u.table.named ++ TableTree.namedList u.sources)
  | .delete d => undeclared s (TableTree.namedList d.tables ++ TableTree.namedList d.usingTables)

end

/-- The INSERT target, or the table that the FROM list or the UPDATE target begins with. -/
def Statement.first? : Statement → Option Named
  | .query q => q.first?
  | .insert i => some i.target
  | .update u => u.table.first?
  | .delete d => TableTree.firstOf? d.tables
  | .other => none

/-- The tables that stand in no nested query, from left to right. -/
def Statement.own : Statement → List Named
  | .query q => q.own .outer
  | .insert i => (SetExpr.insert i).own .outer
  | .update u => (SetExpr.update u).own .outer
  | .delete d => (SetExpr.delete d).own .outer
  | .other => []

namespace Table

/-! ## Ranks -/

/-- Among the references, only the one that comes first can be to the main table, which is then `first`, and all that are
not to tables of nested queries are to `own` ones. -/
structure Ranks (first : Option Named) (own : List Named) (rs : List Reference) : Prop where
  leads : MainFirst rs
  main : ∀ r ∈ rs, r.role = .main → first = some r.named
  own : ∀ r ∈ rs, r.role ≠ .subquery → r.named ∈ own

variable {first : Option Named} {own : List Named} {ms ns : List Named} {s : Scope} {x y : References}

theorem Inner.ranks {rs : List Reference} (h : Inner rs) : Ranks first own rs where
  leads := h.lesser.mainFirst
  main r hr hmain := absurd hmain (h.lesser r hr)
  own r hr hne := absurd (h r hr) hne

theorem ranks_singleton {r : Reference} (hmain : r.role = .main → first = some r.named) (hown : r.named ∈ own) :
    Ranks first own [r] where
  leads := by simp [MainFirst, Lesser]
  main t ht := by
    obtain rfl := List.mem_singleton.1 ht
    exact hmain
  own t ht _ := by
    obtain rfl := List.mem_singleton.1 ht
    exact hown

namespace Ranks

variable {rs ts : List Reference}

theorem lesser (h : Ranks none own rs) : Lesser rs := fun r hr hmain => nomatch h.main r hr hmain

theorem append {own' : List Named} (hr : Ranks first own rs) (ht : Ranks none own' ts) :
    Ranks first (own ++ own') (rs ++ ts) where
  leads := hr.leads.append ht.lesser
  main r h hmain := (List.mem_append.1 h).elim (fun h => hr.main r h hmain) fun h => absurd hmain (ht.lesser r h)
  own r h hne := List.mem_append.2 ((List.mem_append.1 h).imp (fun h => hr.own r h hne) fun h => ht.own r h hne)

/-- Where no reference is to the main table, it does not matter which one that is. -/
theorem joined (h : Ranks none own rs) : Ranks first own rs where
  leads := h.leads
  main r hr hmain := absurd hmain (h.lesser r hr)
  own := h.own

end Ranks

theorem Yields.ranks (h : Yields x Inner) : Yields x (Ranks first own) := fun rs hrs => (h rs hrs).ranks

/-- Relations, and then others that are joined to them. -/
theorem Yields.ranks_joined (hx : Yields x (Ranks first (undeclared s ms)))
    (hy : Yields y (Ranks none (undeclared s ns))) : Yields (gather x y) (Ranks first (undeclared s (ms ++ ns))) := by
  rw [undeclared_append]
  exact hx.gather hy fun _ _ => Ranks.append

/-- Nested queries after relations. -/
theorem Yields.ranks_inner (hx : Yields x (Ranks first own)) (hy : Yields y Inner) :
    Yields (gather x y) (Ranks first own) :=
  hx.gather hy fun rs ts hr ht => by
    have h : Ranks first (own ++ []) (rs ++ ts) := hr.append ht.ranks
    rwa [List.append_nil] at h

/-- The main table can only be among references in the main role. -/
def Role.lead (role : Role) (first : Option Named) : Option Named := if role = .main then first else none

theorem ranks_named (s : Scope) (role : Role) (name : ObjectName) (aliasName : Option String) :
    Ranks (role.lead (some ⟨name.print, aliasName⟩)) (undeclared s [⟨name.print, aliasName⟩])
      (namedReference s role name aliasName) := by
  unfold namedReference undeclared
  cases hd : s.declares name.print with
  | true => exact inner_nil.ranks
  | false =>
    refine ranks_singleton (fun hmain => if_pos hmain) ?_
    simp [Reference.named, hd]

theorem innerJoinRole_ne_main (role : Role) : innerJoinRole role ≠ .main := by
  cases role <;> decide

theorem Scope.joinRole_ne_main (s : Scope) : s.joinRole ≠ .main := by
  unfold Scope.joinRole
  split <;> decide

end Table

mutual

theorem Factor.references_ranks (s : Scope) (role : Role) :
    ∀ f : Factor, Yields (f.references s role) (Ranks (role.lead f.first?) (undeclared s f.named))
  | .table name _ _ _ => yields_ok (ranks_named s role name _)
  | .tableCall _ _ _ _ _ => yields_error
  | .derived _ q aliasName =>
    Yields.ranks (Yields.both (yields_ok (inner_derived aliasName)) (Query.references_inner s.nested rfl q))
  | .nested t _ => TableTree.references_ranks s role (innerJoinRole_ne_main role) t
  | .computed _ _ _ => yields_error
  | .turned _ _ _ => yields_error

theorem TableTree.references_ranks (s : Scope) (role : Role) {joinRole : Role} (hj : joinRole ≠ .main) :
    ∀ t : TableTree, Yields (t.references s role joinRole) (Ranks (role.lead t.first?) (undeclared s t.named))
  | ⟨relation, joins⟩ =>
    Yields.ranks_joined (Factor.references_ranks s role relation) (Join.referencesList_ranks s hj joins)

theorem Join.references_ranks (s : Scope) {role : Role} (hr : role ≠ .main) :
    ∀ j : Join, Yields (j.references s role) (Ranks none (undeclared s j.named))
  | ⟨_, op, relation, _, condition, _⟩ => by
    rw [Join.references_eq]
    have hrelation := Factor.references_ranks s role relation
    rw [Role.lead, if_neg hr] at hrelation
    refine Yields.ranks_inner hrelation ?_
    split
    · exact Expr.referencesOption_inner s condition
    · exact yields_inner_nil

theorem Join.referencesList_ranks (s : Scope) {role : Role} (hr : role ≠ .main) :
    ∀ js : List Join, Yields (Join.referencesList s role js) (Ranks none (undeclared s (Join.namedList js)))
  | [] => Yields.ranks yields_inner_nil
  | j :: js => Yields.ranks_joined (Join.references_ranks s hr j) (Join.referencesList_ranks s hr js)

end

theorem TableTree.referencesJoined_ranks (s : Scope) (ts : List TableTree) :
    Yields (TableTree.referencesJoined s ts) (Ranks none (undeclared s (TableTree.namedList ts))) := by
  induction ts with
  | nil => exact Yields.ranks yields_inner_nil
  | cons t ts ih =>
    have ht := TableTree.references_ranks s s.joinRole s.joinRole_ne_main t
    rw [Role.lead, if_neg s.joinRole_ne_main] at ht
    exact Yields.ranks_joined ht ih

/-- A relation in the role of the main table. -/
theorem TableTree.references_main_ranks (s : Scope) (t : TableTree) :
    Yields (t.references s s.mainRole s.joinRole) (Ranks t.first? (undeclared s t.named)) := by
  intro rs hrs
  have h := TableTree.references_ranks s s.mainRole s.joinRole_ne_main t rs hrs
  unfold Role.lead at h
  split at h
  · exact h
  · exact h.joined

theorem TableTree.referencesFrom_ranks (s : Scope) (ts : List TableTree) :
    Yields (TableTree.referencesFrom s ts) (Ranks (TableTree.firstOf? ts) (undeclared s (TableTree.namedList ts))) := by
  cases ts with
  | nil => exact Yields.ranks yields_inner_nil
  | cons t ts => exact Yields.ranks_joined (t.references_main_ranks s) (TableTree.referencesJoined_ranks s ts)

theorem Select.references_ranks (s : Scope) (sel : Select) :
    Yields (sel.references s) (Ranks (SetExpr.select sel).first? ((SetExpr.select sel).own s)) := by
  rw [Select.references_eq]
  have hfrom := TableTree.referencesFrom_ranks s sel.tables
  refine Yields.ranks_inner (Yields.ranks_inner (Yields.ranks_inner hfrom ?_) ?_) ?_
  · exact SelectItem.referencesList_inner s sel.projection
  · exact Expr.referencesOption_inner s sel.selection
  · exact Expr.referencesOption_inner s sel.having

theorem Insert.references_ranks (s : Scope) (i : Insert) :
    Yields (i.references s) (Ranks (SetExpr.insert i).first? ((SetExpr.insert i).own s)) := by
  have htarget : Ranks (some i.target) [i.target] [⟨i.table.print, i.aliasName.map Ident.print, s.mainRole⟩] :=
    ranks_singleton (fun _ => rfl) (List.mem_singleton_self _)
  rw [Insert.references_eq]
  refine Yields.ranks_inner (Yields.ranks_inner (yields_ok htarget) ?_) ?_
  · exact Query.referencesOption_inner s.nested rfl i.source
  · exact Assignment.referencesList_inner s i.assignments

theorem Update.references_ranks (s : Scope) (u : Update) :
    Yields (u.references s) (Ranks (SetExpr.update u).first? ((SetExpr.update u).own s)) := by
  rw [Update.references_eq]
  refine Yields.ranks_inner (Yields.ranks_inner (Yields.ranks_joined (u.table.references_main_ranks s) ?_) ?_) ?_
  · exact TableTree.referencesJoined_ranks s u.sources
  · exact Assignment.referencesList_inner s u.assignments
  · exact Expr.referencesOption_inner s u.selection

theorem Delete.references_ranks (s : Scope) (d : Delete) :
    Yields (d.references s) (Ranks (SetExpr.delete d).first? ((SetExpr.delete d).own s)) := by
  rw [Delete.references_eq]
  refine Yields.ranks_inner (Yields.ranks_joined (TableTree.referencesFrom_ranks s d.tables) ?_) ?_
  · exact TableTree.referencesJoined_ranks s d.usingTables
  · exact Expr.referencesOption_inner s d.selection

mutual

theorem Query.references_ranks (s : Scope) : ∀ q : Query, Yields (q.references s) (Ranks q.first? (q.own s))
  | ⟨_, ctes, body, _⟩ =>
    Yields.ranks_inner (SetExpr.references_ranks (s.declaring ctes) body)
      (Cte.referencesList_inner (s.declaring ctes).nested rfl ctes)

theorem SetExpr.references_ranks (s : Scope) : ∀ b : SetExpr, Yields (b.references s) (Ranks b.first? (b.own s))
  | .select sel => Select.references_ranks s sel
  | .query q => Query.references_ranks s q
  | .operation l _ _ r => Yields.ranks_inner (SetExpr.references_ranks s l) (SetExpr.references_inner s.nested rfl r)
  | .values _ rows => Yields.ranks (Expr.referencesRows_inner s rows)
  | .table _ => yields_error
  | .insert i => Insert.references_ranks s i
  | .update u => Update.references_ranks s u
  | .delete _ => yields_error

end

/-- The main table of a statement, if it has one, is the table that it begins with and is referred to before all others,
and only its own tables play a part in it. -/
theorem Statement.references_ranks (st : Statement) : Yields st.references (Ranks st.first? st.own) := by
  cases st with
  | query q => exact Query.references_ranks .outer q
  | insert i => exact Insert.references_ranks .outer i
  | update u => exact Update.references_ranks .outer u
  | delete d => exact Delete.references_ranks .outer d
  | other => exact yields_error

theorem Statement.references_mainFirst (st : Statement) : Yields st.references MainFirst :=
  fun rs hrs => (Statement.references_ranks st rs hrs).leads

namespace Table

/-! ## Roles in the set -/

/-- There is at most one main table; if there is one it comes first, and it is the table that the statement begins with.
Tables that are met in nested queries only have the role of such. -/
theorem tables_ranked (st : Statement) (tables : Set) (h : st.tables = .ok tables) :
    (tables.withRole .main).length ≤ 1 ∧
      (∀ r ∈ tables.entries, r.role = .main → tables.entries.head? = some r ∧ st.first? = some r.named) ∧
      ∀ r ∈ tables.entries, (∀ n ∈ st.own, n.key ≠ r.key) → r.role = .subquery := by
  obtain ⟨rs, hrs, ht⟩ := bind_eq_ok.1 h
  cases ht
  have hranks := Statement.references_ranks st rs hrs
  have hfirst : ∀ r ∈ (Set.ofList rs).entries, r.role = .main → (Set.ofList rs).entries.head? = some r :=
    fun r hr hrole => hranks.leads.head? hr hrole
  refine ⟨?_, fun r hr hrole => ⟨hfirst r hr hrole, ?_⟩, fun r hr hown => ?_⟩
  · -- all main tables are the first entry, and no entry is there twice
    have hnodup : ((Set.ofList rs).withRole .main).Nodup := (List.Nodup.of_map _ (Set.distinct_ofList rs)).filter _
    have hsubset : (Set.ofList rs).withRole .main ⊆ (Set.ofList rs).entries.head?.toList := by
      intro r hr
      obtain ⟨hr, hrole⟩ := List.mem_filter.1 hr
      exact Option.mem_toList.2 (hfirst r hr (by simpa using hrole))
    have hle := (List.subperm_of_subset hnodup hsubset).length_le
    exact Nat.le_trans hle (by cases (Set.ofList rs).entries.head? <;> simp)
  · exact hranks.main r (Set.mem_of_mem_entries hr) hrole
  · by_contra hrole
    exact hown r.named (hranks.own r (Set.mem_of_mem_entries hr) hrole) rfl

/-- `SELECT * FROM (a CROSS JOIN b), (SELECT * FROM (c CROSS JOIN d)) AS e UNION SELECT * FROM f`. -/
theorem tables_ranked_joined :
    let table (name : String) : Factor := .table [⟨name, none⟩] none ⟨[], false, []⟩ []
    let cross (f g : Factor) : TableTree := ⟨.nested ⟨f, [⟨false, .cross, g, none, none, .none⟩]⟩ none, []⟩
    let select (ts : List TableTree) : SetExpr :=
      .select ⟨false, [], [.wildcard none []], none, ts, [], none, [], none, []⟩
    let derived : Factor :=
      .derived false ⟨false, [], select [cross (table "c") (table "d")], []⟩ (some ⟨⟨"e", none⟩, []⟩)
    let st := Statement.query ⟨false, [], .operation (select [cross (table "a") (table "b"), ⟨derived, []⟩]) .union ""
      (select [⟨table "f", []⟩]), []⟩
    ∃ tables, st.tables = .ok tables ∧ (tables.withRole .main).length ≤ 1 ∧
      tables.entries.head? = some ⟨"a", none, .main⟩ ∧ st.first? = some ⟨"a", none⟩ ∧
      ∀ r ∈ tables.entries, r.key = ("d", none) → r.role = .subquery := by
  intro table cross select derived st
  let tables : Set := .ofList [⟨"a", none, .main⟩, ⟨"b", none, .join⟩, ⟨"e", some "e", .subquery⟩,
    ⟨"c", none, .subquery⟩, ⟨"d", none, .subquery⟩, ⟨"f", none, .subquery⟩]
  have ht : st.tables = .ok tables := eq_ok_of_toOption (by decide +kernel)
  obtain ⟨hone, hmain, hnested⟩ := tables_ranked st tables ht
  obtain ⟨hhead, hfirst⟩ := hmain ⟨"a", none, .main⟩ (by decide +kernel) rfl
  refine ⟨tables, ht, hone, hhead, hfirst, fun r hr hkey => hnested r hr ?_⟩
  rw [hkey]
  decide +kernel

end Table

end SqlTemplate
