/-
The tables of merged statements. A merge puts the references of the added joins after those of the relations
that they follow, and the references of the added predicate after those of WHERE; all that comes after either
place belongs to nested queries. So the tables are the old ones and the added ones, and what the old ones are
in the statement itself they stay.
-/
import SqlTemplate.Proofs.Merge.Basic
import SqlTemplate.Proofs.Table.Own
import SqlTemplate.Proofs.Table.Sets

namespace SqlTemplate

open Table (Role Reference Scope References Inner Key)

/-- The scope of a statement's own relations: its WITH list is declared there. -/
def Statement.scope : Statement → Scope
  | .query q => Scope.outer.declaring q.ctes
  | _ => .outer

namespace Table

/-! ## Growing lists of references -/

/-- `ts` is `rs` with `added` at a place after which there are only references of nested queries. -/
def Grows (rs added ts : List Reference) : Prop := ∃ xs ys, rs = xs ++ ys ∧ ts = xs ++ added ++ ys ∧ Inner ys

variable {rs added ts : List Reference}

theorem Grows.refl (rs : List Reference) : Grows rs [] rs := ⟨rs, [], by simp, by simp, inner_nil⟩

theorem Grows.contains_iff (h : Grows rs added ts) (k : Key) :
    (Set.ofList ts).contains k = true ↔ (Set.ofList rs).contains k = true ∨ ∃ r ∈ added, r.key = k := by
  obtain ⟨xs, ys, rfl, rfl, -⟩ := h
  simp only [Set.contains_ofList, List.mem_append, or_and_right, exists_or]
  rw [or_right_comm]

/-- A table of the statement itself is found where it was. -/
theorem Grows.mem_entries (h : Grows rs added ts) {r : Reference} (hr : r ∈ (Set.ofList rs).entries)
    (hrole : r.role ≠ .subquery) : r ∈ (Set.ofList ts).entries := by
  obtain ⟨xs, ys, rfl, rfl, hy⟩ := h
  rw [Set.mem_entries_ofList] at hr ⊢
  cases hx : xs.find? (·.key == r.key) with
  | none =>
    rw [List.find?_append, hx, Option.none_or] at hr
    exact absurd (hy r (List.mem_of_find?_eq_some hr)) hrole
  | some t =>
    rw [List.find?_append, hx, Option.some_or] at hr
    rw [List.append_assoc, List.find?_append, hx, Option.some_or]
    exact hr

end Table

open Table

/-! ## Added joins -/

theorem Join.referencesList_append (s : Scope) (role : Role) (js ks : List Join) :
    Join.referencesList s role (js ++ ks) = gather (Join.referencesList s role js) (Join.referencesList s role ks) := by
  induction js with
  | nil => exact (nil_gather _).symm
  | cons j js ih =>
    show gather (j.references s role) (Join.referencesList s role (js ++ ks)) = _
    rw [ih, ← gather_assoc]
    rfl

namespace Merge

theorem references_appendJoins (s : Scope) (role joinRole : Role) (js : List Join) (t : TableTree) :
    (appendJoins js t).references s role joinRole =
      gather (t.references s role joinRole) (Join.referencesList s joinRole js) := by
  obtain ⟨relation, joins⟩ := t
  show gather (relation.references s role) (Join.referencesList s joinRole (joins ++ js)) = _
  rw [Join.referencesList_append, ← gather_assoc]
  rfl

theorem referencesJoined_changeLast (s : Scope) (js : List Join) {ts : List TableTree} (h : ts ≠ []) :
    TableTree.referencesJoined s (changeLast (appendJoins js) ts) =
      gather (TableTree.referencesJoined s ts) (Join.referencesList s s.joinRole js) := by
  induction ts with
  | nil => exact absurd rfl h
  | cons t ts ih =>
    cases ts with
    | nil =>
      show gather ((appendJoins js t).references s s.joinRole s.joinRole) (.ok []) =
        gather (gather (t.references s s.joinRole s.joinRole) (.ok [])) _
      rw [gather_nil, gather_nil, references_appendJoins]
    | cons u ts =>
      show gather (t.references s s.joinRole s.joinRole) (TableTree.referencesJoined s (changeLast (appendJoins js) (u :: ts))) = _
      rw [ih (by simp), ← gather_assoc]
      rfl

theorem referencesFrom_changeLast (s : Scope) (js : List Join) {ts : List TableTree} (h : ts ≠ []) :
    TableTree.referencesFrom s (changeLast (appendJoins js) ts) =
      gather (TableTree.referencesFrom s ts) (Join.referencesList s s.joinRole js) := by
  cases ts with
  | nil => exact absurd rfl h
  | cons t ts =>
    cases ts with
    | nil =>
      show gather ((appendJoins js t).references s s.mainRole s.joinRole) (.ok []) =
        gather (gather (t.references s s.mainRole s.joinRole) (.ok [])) _
      rw [gather_nil, gather_nil, references_appendJoins]
    | cons u ts =>
      show gather (t.references s s.mainRole s.joinRole) (TableTree.referencesJoined s (changeLast (appendJoins js) (u :: ts))) = _
      rw [referencesJoined_changeLast s js (by simp), ← gather_assoc]
      rfl

theorem references_parenthesize (s : Scope) (e : Expr) : (parenthesize e).references s = e.references s := by
  cases e <;> rfl

theorem references_conjoin (s : Scope) (existing : Option Expr) (added : Expr) :
    (conjoin existing added).references s = gather (Expr.referencesOption s existing) (added.references s) := by
  cases existing with
  | none => exact (nil_gather _).symm
  | some e =>
    show gather ((parenthesize e).references s) ((parenthesize added).references s) = _
    rw [references_parenthesize, references_parenthesize]
    rfl

/-! ## The walk around the two places -/

/-- The relations of a statement, up to where joins are added. -/
def headReferences : Statement → References
  | .query ⟨_, ctes, .select s, _⟩ => TableTree.referencesFrom (Scope.outer.declaring ctes) s.tables
  | .update u =>
    gather (u.table.references .outer .main .join) (TableTree.referencesJoined .outer u.sources)
  | .delete d =>
    gather (TableTree.referencesFrom .outer d.tables) (TableTree.referencesJoined .outer d.usingTables)
  | _ => .ok []

/-- What is met between the relations and WHERE. -/
def middleReferences : Statement → References
  | .query ⟨_, ctes, .select s, _⟩ => SelectItem.referencesList (Scope.outer.declaring ctes) s.projection
  | .update u => Assignment.referencesList .outer u.assignments
  | _ => .ok []

/-- What is met after WHERE. -/
def tailReferences : Statement → References
  | .query ⟨_, ctes, .select s, _⟩ =>
    gather (Expr.referencesOption (Scope.outer.declaring ctes) s.having)
      (Cte.referencesList (Scope.outer.declaring ctes).nested ctes)
  | _ => .ok []

variable {st : Statement} {rs : List Reference}

theorem references_eq (h : takesJoins st = true) :
    st.references = gather (headReferences st) (gather (middleReferences st)
      (gather (Expr.referencesOption st.scope (selection st)) (tailReferences st))) := by
  unfold takesJoins at h
  split at h
  · rename_i recursive ctes s clauses
    show gather (s.references (Scope.outer.declaring ctes)) _ = _
    rw [Select.references_eq, gather_assoc, gather_assoc, gather_assoc]
    rfl
  · rename_i u
    show u.references .outer = _
    rw [Update.references_eq, gather_assoc]
    exact congrArg _ (congrArg _ (gather_nil _).symm)
  · rename_i d
    show d.references .outer = _
    rw [Delete.references_eq]
    exact congrArg _ ((gather_nil _).symm.trans (nil_gather _).symm)
  · cases h

theorem middleReferences_inner (st : Statement) : Yields (middleReferences st) Inner := by
  unfold middleReferences
  split
  · exact SelectItem.referencesList_inner _ _
  · exact Assignment.referencesList_inner _ _
  · exact yields_inner_nil

theorem tailReferences_inner (st : Statement) : Yields (tailReferences st) Inner := by
  unfold tailReferences
  split
  · exact Yields.both (Expr.referencesOption_inner _ _) (Cte.referencesList_inner _ rfl _)
  · exact yields_inner_nil

/-- Adding joins changes nothing but the relations, and scope and roles stay as they are. -/
theorem addJoins_frame (joins : List Join) (slot : Slot) (st : Statement) :
    middleReferences (addJoins joins slot st) = middleReferences st ∧
      tailReferences (addJoins joins slot st) = tailReferences st ∧ (addJoins joins slot st).scope = st.scope := by
  unfold addJoins
  split
  · exact ⟨rfl, rfl, rfl⟩
  · split <;> exact ⟨rfl, rfl, rfl⟩
  · simp only
    split <;> split <;> exact ⟨rfl, rfl, rfl⟩
  · exact ⟨rfl, rfl, rfl⟩

theorem headReferences_update (joins : List Join) (slot : Slot) (u : Update) :
    headReferences (addJoins joins slot (.update u)) =
      gather (headReferences (.update u)) (Join.referencesList .outer .join joins) := by
  unfold addJoins
  by_cases hs : u.sources = []
  · -- the target takes the joins, and there is no FROM list after it
    simp only [hs, List.isEmpty_nil, if_true, headReferences, references_appendJoins]
    rw [show TableTree.referencesJoined .outer [] = .ok [] from rfl, gather_nil, gather_nil]
  · simp only [List.isEmpty_iff, hs, if_false, headReferences, referencesJoined_changeLast .outer joins hs, gather_assoc]
    rfl

theorem headReferences_delete (joins : List Join) {d : Delete} (h : d.tables ≠ []) :
    headReferences (addJoins joins .append (.delete d)) =
      gather (headReferences (.delete d)) (Join.referencesList .outer .join joins) := by
  unfold addJoins
  by_cases hu : d.usingTables = []
  · simp only [hu, List.isEmpty_nil, if_true, headReferences, referencesFrom_changeLast .outer joins h]
    rw [show TableTree.referencesJoined .outer [] = .ok [] from rfl, gather_nil, gather_nil]
    rfl
  · simp only [List.isEmpty_iff, hu, if_false, headReferences, referencesJoined_changeLast .outer joins hu, gather_assoc]
    rfl

theorem headReferences_addJoins (joins : List Join) (slot : Slot) (h : takesJoins st = true) :
    headReferences (addJoins joins slot st) =
      gather (headReferences st) (Join.referencesList st.scope .join joins) := by
  unfold takesJoins at h
  split at h
  · rename_i recursive ctes s clauses
    exact referencesFrom_changeLast (Scope.outer.declaring ctes) joins (by simpa using h)
  · exact headReferences_update joins slot _
  · rename_i d
    have hd : d.tables ≠ [] := by simpa using h
    cases slot with
    | append => exact headReferences_delete joins hd
    | refuse why => exact headReferences_delete joins hd
    | nameTarget name => exact headReferences_delete joins (d := { d with targets := d.targets ++ [name] }) hd
  · cases h

/-- Adding a predicate changes nothing but WHERE. -/
theorem addPredicate_frame (p : Expr) (st : Statement) :
    headReferences (addPredicate p st) = headReferences st ∧ middleReferences (addPredicate p st) = middleReferences st ∧
      tailReferences (addPredicate p st) = tailReferences st ∧ (addPredicate p st).scope = st.scope := by
  unfold addPredicate
  split <;> exact ⟨rfl, rfl, rfl, rfl⟩

/-! ## Merged tables -/

theorem exists_grows {x y added : References} {js : List Reference} (h : gather x y = .ok rs) (hj : added = .ok js)
    (hy : Yields y Inner) : ∃ ts, gather (gather x added) y = .ok ts ∧ Grows rs js ts := by
  obtain ⟨xs, ys, rfl, rfl, rfl⟩ := gather_eq_ok.1 h
  cases hj
  exact ⟨xs ++ js ++ ys, rfl, xs, ys, rfl, rfl, hy ys rfl⟩

/-- The references of added joins come after those of the relations that they follow. -/
theorem grows_addJoins {joins : List Join} {js : List Reference} (slot : Slot) (ht : takesJoins st = true)
    (hr : st.references = .ok rs) (hj : Join.referencesList st.scope .join joins = .ok js) :
    ∃ ts, (addJoins joins slot st).references = .ok ts ∧ Grows rs js ts := by
  obtain ⟨hmiddle, htail, hscope⟩ := addJoins_frame joins slot st
  rw [references_eq ht] at hr
  rw [references_eq (takesJoins_addJoins joins slot ht), headReferences_addJoins joins slot ht, hmiddle, htail, hscope,
    selection_addJoins]
  exact exists_grows hr hj (Yields.both (middleReferences_inner st)
    (Yields.both (Expr.referencesOption_inner _ _) (tailReferences_inner st)))

/-- The references of an added predicate come after those of WHERE. -/
theorem grows_addPredicate {p : Expr} {ps : List Reference} (ht : takesJoins st = true) (hr : st.references = .ok rs)
    (hp : p.references st.scope = .ok ps) : ∃ ts, (addPredicate p st).references = .ok ts ∧ Grows rs ps ts := by
  obtain ⟨hhead, hmiddle, htail, hscope⟩ := addPredicate_frame p st
  rw [references_eq ht, ← gather_assoc, ← gather_assoc] at hr
  rw [references_eq ((takesJoins_addPredicate p st).trans ht), hhead, hmiddle, htail, hscope, selection_addPredicate p ht,
    show Expr.referencesOption st.scope (some (conjoin (selection st) p)) = (conjoin (selection st) p).references st.scope
      from rfl, references_conjoin, ← gather_assoc, ← gather_assoc, ← gather_assoc]
  exact exists_grows hr hp (tailReferences_inner st)

theorem references_withJoins {a : AttachPoint} {joins : List Join} {joined : Statement} {js : List Reference}
    (ht : takesJoins st = true) (hw : withJoins a joins st = .ok joined) (hr : st.references = .ok rs)
    (hj : Join.referencesList st.scope .join joins = .ok js) :
    ∃ ts, joined.references = .ok ts ∧ Grows rs js ts ∧ takesJoins joined = true ∧ joined.scope = st.scope := by
  rcases withJoins_eq_ok hw with ⟨rfl, rfl⟩ | rfl
  · cases hj
    exact ⟨rs, hr, .refl rs, ht, rfl⟩
  · obtain ⟨ts, hts, hg⟩ := grows_addJoins a.slot ht hr hj
    exact ⟨ts, hts, hg, takesJoins_addJoins joins a.slot ht, (addJoins_frame joins a.slot st).2.2⟩

theorem references_withPredicate {predicate : Option Expr} {ps : List Reference} (ht : takesJoins st = true)
    (hr : st.references = .ok rs) (hp : Expr.referencesOption st.scope predicate = .ok ps) :
    ∃ ts, (withPredicate predicate st).references = .ok ts ∧ Grows rs ps ts := by
  cases predicate with
  | none =>
    cases hp
    exact ⟨rs, hr, .refl rs⟩
  | some p => exact grows_addPredicate ht hr hp

/-- A merged statement has the tables of the statement, of the joins and of the predicate, where a name that the
statement's WITH list declares is no table in either of them. Tables of the statement itself keep their roles, and the
main one stays first. -/
theorem tables_build (c : Config) (total : Nat) (st merged : Statement) (adds : Additions) (old : Table.Set)
    (js ps : List Reference) (hb : build c total st adds = .ok merged) (ht : st.tables = .ok old)
    (hj : Join.referencesList st.scope .join adds.joins = .ok js)
    (hp : Expr.referencesOption st.scope adds.predicate = .ok ps) :
    ∃ new, merged.tables = .ok new ∧
      (∀ k, new.contains k = true ↔ old.contains k = true ∨ (∃ r ∈ js, r.key = k) ∨ ∃ r ∈ ps, r.key = k) ∧
      (∀ r ∈ old.entries, r.role ≠ .subquery → r ∈ new.entries) ∧
      (∀ r ∈ old.entries, r.role = .main → old.entries.head? = some r ∧ new.entries.head? = some r) := by
  obtain ⟨a, joined, ha, -, hw, rfl⟩ := build_eq_ok hb
  obtain ⟨rs, hr, h⟩ := bind_eq_ok.1 ht
  cases h
  obtain ⟨ts, hts, hgrows, htakes, hscope⟩ := references_withJoins (takesJoins_of_attachPoint ha) hw hr hj
  rw [← hscope] at hp
  obtain ⟨us, hus, hgrows'⟩ := references_withPredicate htakes hts hp
  have hkeep : ∀ r ∈ (Set.ofList rs).entries, r.role ≠ .subquery → r ∈ (Set.ofList us).entries :=
    fun r hmem hrole => hgrows'.mem_entries (hgrows.mem_entries hmem hrole) hrole
  refine ⟨Set.ofList us, by rw [Statement.tables, hus]; rfl, fun k => ?_, hkeep, fun r hmem hrole => ⟨?_, ?_⟩⟩
  · rw [hgrows'.contains_iff, hgrows.contains_iff, or_assoc]
  · exact MainFirst.head? (Statement.references_mainFirst st rs hr) hmem hrole
  · exact MainFirst.head? (Statement.references_mainFirst _ us hus) (hkeep r hmem (by rw [hrole]; decide)) hrole

/-- `FROM users WHERE id IN (SELECT * FROM orders)` with a join of orders and a predicate about bans: orders is met in
the join first. -/
theorem tables_build_orders :
    let table (name : String) : TableTree := ⟨.table [⟨name, none⟩] none ⟨[], false, []⟩ [], []⟩
    let query (name : String) (e : Option Expr) : Query :=
      ⟨false, [], .select ⟨false, [], [.wildcard none []], none, [table name], [], e, [], none, []⟩, []⟩
    let st := Statement.query (query "users" (some (.inSubquery (.ident ⟨"id", none⟩) false (query "orders" none))))
    let adds : Additions := ⟨[⟨false, .left, (table "orders").relation, none, none, .columns [[⟨"id", none⟩]]⟩], 0,
      some (.exists_ false (query "bans" none)), 0⟩
    ∃ merged new, build ⟨.mysql, true⟩ 0 st adds = .ok merged ∧ merged.tables = .ok new ∧
      new.contains ("bans", none) = true ∧ new.entries.head? = some ⟨"users", none, .main⟩ := by
  intro table query st adds
  obtain ⟨merged, hb⟩ := exists_eq_ok (x := build ⟨.mysql, true⟩ 0 st adds) (by decide +kernel)
  obtain ⟨new, hn, hkeys, -, hmain⟩ := tables_build ⟨.mysql, true⟩ 0 st merged adds
    (Set.ofList [⟨"users", none, .main⟩, ⟨"orders", none, .subquery⟩]) [⟨"orders", none, .join⟩]
    [⟨"bans", none, .subquery⟩] hb (eq_ok_of_toOption (by decide +kernel)) (eq_ok_of_toOption (by decide +kernel))
    (eq_ok_of_toOption (by decide +kernel))
  refine ⟨merged, new, hb, hn, (hkeys _).2 (.inr (.inr ⟨_, List.mem_singleton_self _, by decide +kernel⟩)), ?_⟩
  exact (hmain ⟨"users", none, .main⟩ (by decide +kernel) rfl).2

end Merge

end SqlTemplate
