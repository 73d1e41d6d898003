/-
The conditions of merged statements. A statement's conditions fall into five sections: those before the join
list that a merge extends, those of this list, those between it and WHERE, those of WHERE, and those after. A
merge adds the conditions of the new joins at the end of the second section and conjoins the predicate in the
fourth; the others stay.
-/
import SqlTemplate.Proofs.Condition.Collect
import SqlTemplate.Proofs.Merge.Basic

namespace SqlTemplate

open Condition (Node Position classify group)

namespace Merge

/-! ## Sections -/

/-- The joins of the last of several relations. -/
def lastJoins : List TableTree → List Join
  | [] => []
  | [t] => t.joins
  | _ :: ts => lastJoins ts

/-- The conditions of relations before the joins of the last one. -/
def beforeLastJoins : List TableTree → Conditions
  | [] => .ok []
  | [t] => t.relation.conditions
  | t :: ts => gather t.conditions (beforeLastJoins ts)

/-- The relations that joins are added to: those of a SELECT, the FROM list of an UPDATE or else its target, the USING
list of a DELETE or else its tables. -/
def joinedRelations : Statement → List TableTree
  | .query ⟨_, _, .select s, _⟩ => s.tables
  | .update u => if u.sources.isEmpty then [u.table] else u.sources
  | .delete d => if d.usingTables.isEmpty then d.tables else d.usingTables
  | _ => []

/-- The conditions before the relations that joins are added to. -/
def firstConditions : Statement → Conditions
  | .query ⟨_, ctes, .select s, _⟩ => gather (Cte.conditionsList ctes) (SelectItem.conditionsList s.projection)
  | .update u =>
    if u.sources.isEmpty then .ok []
    else if u.sourcesFirst then u.table.conditions
    else gather u.table.conditions (Assignment.conditionsList u.assignments)
  | .delete d => if d.usingTables.isEmpty then .ok [] else TableTree.conditionsList d.tables
  | _ => .ok []

/-- The conditions between these relations and WHERE. -/
def middleConditions : Statement → Conditions
  | .update u => if u.sources.isEmpty || u.sourcesFirst then Assignment.conditionsList u.assignments else .ok []
  | _ => .ok []

/-- The conditions after WHERE. -/
def lastConditions : Statement → Conditions
  | .query ⟨_, _, .select s, _⟩ => Expr.predicateConditions .having s.having
  | _ => .ok []

/-- The conditions of WHERE after a predicate was conjoined to it, given those of both: their first nodes make one
group, and the conditions of nested queries follow. -/
def conjoinNodes (existing added : Option Expr) (ws ps : List Node) : List Node :=
  match existing, added, ws, ps with
  | some w, some p, n :: inner, m :: innerAdded => group (conjoin (some w) p) .where_ .and [n, m] :: (inner ++ innerAdded)
  | _, _, _, _ => ws ++ ps

variable {st : Statement} {joins : List Join}

theorem conditionsList_eq (ts : List TableTree) :
    TableTree.conditionsList ts = gather (beforeLastJoins ts) (Join.conditionsList (lastJoins ts)) := by
  induction ts with
  | nil => rfl
  | cons t ts ih =>
    cases ts with
    | nil =>
      obtain ⟨relation, joins⟩ := t
      exact gather_nil _
    | cons u ts =>
      show gather t.conditions (TableTree.conditionsList (u :: ts)) = gather (gather t.conditions (beforeLastJoins (u :: ts))) _
      rw [ih, gather_assoc]
      rfl

/-- Joins that are added after the last relation are the last of its joins. -/
theorem changeLast_appendJoins (joins : List Join) {ts : List TableTree} (h : ts ≠ []) :
    beforeLastJoins (changeLast (appendJoins joins) ts) = beforeLastJoins ts ∧
      lastJoins (changeLast (appendJoins joins) ts) = lastJoins ts ++ joins := by
  induction ts with
  | nil => exact absurd rfl h
  | cons t ts ih =>
    cases ts with
    | nil => exact ⟨rfl, rfl⟩
    | cons u ts =>
      obtain ⟨hbefore, hjoins⟩ := ih (by simp)
      have hne := changeLast_ne_nil (f := appendJoins joins) (List.cons_ne_nil u ts)
      rw [changeLast.eq_3 _ _ _ (by simp), beforeLastJoins.eq_3 _ _ hne, hbefore, lastJoins.eq_3 _ _ hne, hjoins]
      exact ⟨rfl, rfl⟩

/-- The conditions of a statement are those of its sections. -/
theorem conditions_eq (h : takesJoins st = true) :
    st.conditions = gather (firstConditions st) (gather (TableTree.conditionsList (joinedRelations st))
      (gather (middleConditions st) (gather (Expr.predicateConditions .where_ (selection st)) (lastConditions st)))) := by
  unfold takesJoins at h
  split at h
  · rename_i recursive ctes s clauses
    show gather (Cte.conditionsList ctes) s.conditions = _
    rw [Select.conditions_eq]
    simp only [gather_assoc, firstConditions, joinedRelations, middleConditions, nil_gather]
    rfl
  · rename_i u
    have hlist : ∀ t : TableTree, TableTree.conditionsList [t] = t.conditions := fun t => gather_nil _
    show u.conditions = _
    rw [Update.conditions_eq]
    cases hs : u.sources <;> cases hf : u.sourcesFirst <;>
      simp [firstConditions, joinedRelations, middleConditions, lastConditions, selection, hs, hf, hlist, gather_assoc,
        TableTree.conditionsList]
  · rename_i d
    show d.conditions = _
    rw [Delete.conditions_eq]
    cases hu : d.usingTables <;>
      simp [firstConditions, joinedRelations, middleConditions, lastConditions, selection, hu, gather_assoc,
        TableTree.conditionsList]
  · cases h

/-! ## Added joins -/

theorem joinedRelations_ne_nil (h : takesJoins st = true) : joinedRelations st ≠ [] := by
  unfold takesJoins at h
  split at h
  · simpa [joinedRelations] using h
  · rename_i u
    cases hs : u.sources <;> simp [joinedRelations, hs]
  · rename_i d
    cases hu : d.usingTables with
    | nil => simpa [joinedRelations, hu] using h
    | cons t ts => simp [joinedRelations, hu]
  · cases h

/-- Adding joins changes the last of the relations that it finds, and no other section. -/
theorem addJoins_sections (joins : List Join) (slot : Slot) (st : Statement) :
    joinedRelations (addJoins joins slot st) = changeLast (appendJoins joins) (joinedRelations st) ∧
      firstConditions (addJoins joins slot st) = firstConditions st ∧
      middleConditions (addJoins joins slot st) = middleConditions st ∧
      lastConditions (addJoins joins slot st) = lastConditions st := by
  have hempty (ts : List TableTree) : (changeLast (appendJoins joins) ts).isEmpty = ts.isEmpty := by
    cases ts with
    | nil => rfl
    | cons t ts => cases ts <;> rfl
  unfold addJoins
  split
  · exact ⟨rfl, rfl, rfl, rfl⟩
  · rename_i u
    cases hs : u.sources.isEmpty <;>
      simp [joinedRelations, firstConditions, middleConditions, lastConditions, hs, hempty, changeLast]
  · rename_i d
    cases hu : d.usingTables.isEmpty <;> cases slot <;>
      simp [joinedRelations, firstConditions, middleConditions, lastConditions, hu, hempty]
  · refine ⟨?_, rfl, rfl, rfl⟩
    rename_i st hquery hupdate hdelete
    unfold joinedRelations
    split
    · exact absurd rfl (hquery _ _ _ _)
    · exact absurd rfl (hupdate _)
    · exact absurd rfl (hdelete _)
    · rfl

/-- Adding a predicate changes WHERE only. -/
theorem addPredicate_sections (p : Expr) (st : Statement) :
    joinedRelations (addPredicate p st) = joinedRelations st ∧ firstConditions (addPredicate p st) = firstConditions st ∧
      middleConditions (addPredicate p st) = middleConditions st ∧ lastConditions (addPredicate p st) = lastConditions st := by
  unfold addPredicate
  split <;> exact ⟨rfl, rfl, rfl, rfl⟩

/-! ## Conjoined predicates -/

theorem classify_parenthesize (p : Position) (e : Expr) : classify p (parenthesize e) = classify p e := by
  cases e <;> rfl

theorem innerConditions_parenthesize (e : Expr) : (parenthesize e).innerConditions = e.innerConditions := by
  cases e <;> rfl

/-- Parentheses keep the two sides of a conjunction apart. -/
theorem spread_parenthesize (op : BinaryOp) (e : Expr) (n : Node) : Condition.spread op (parenthesize e) n = [n] := by
  cases e <;> rfl

theorem classify_conjoin {p : Position} {w e : Expr} {n m : Node} (hn : classify p w = .ok n) (hm : classify p e = .ok m) :
    classify p (conjoin (some w) e) = .ok (group (conjoin (some w) e) p .and [n, m]) := by
  show (do
    let left ← classify p (parenthesize w)
    let right ← classify p (parenthesize e)
    return group (conjoin (some w) e) p .and
      (Condition.spread .and (parenthesize w) left ++ Condition.spread .and (parenthesize e) right)) = _
  rw [classify_parenthesize, classify_parenthesize, hn, hm]
  show Except.ok (group _ p .and (Condition.spread .and (parenthesize w) n ++ Condition.spread .and (parenthesize e) m)) = _
  rw [spread_parenthesize, spread_parenthesize]
  rfl

variable {ws ps : List Node}

theorem predicateConditions_eq_ok {p : Position} {e : Expr} {ns : List Node} :
    Expr.predicateConditions p (some e) = .ok ns ↔ ∃ n inner, classify p e = .ok n ∧ e.innerConditions = .ok inner ∧ ns = n :: inner := by
  constructor
  · intro h
    obtain ⟨n, hn, h⟩ := bind_eq_ok.1 h
    obtain ⟨inner, hi, h⟩ := bind_eq_ok.1 h
    cases h
    exact ⟨n, inner, hn, hi, rfl⟩
  · rintro ⟨n, inner, hn, hi, rfl⟩
    rw [Expr.predicateConditions, hn, hi]
    rfl

theorem predicateConditions_conjoin {existing : Option Expr} {added : Expr}
    (hw : Expr.predicateConditions .where_ existing = .ok ws) (hp : Expr.predicateConditions .where_ (some added) = .ok ps) :
    Expr.predicateConditions .where_ (some (conjoin existing added)) = .ok (conjoinNodes existing (some added) ws ps) := by
  cases existing with
  | none =>
    cases hw
    exact hp
  | some w =>
    obtain ⟨n, inner, hn, hi, rfl⟩ := predicateConditions_eq_ok.1 hw
    obtain ⟨m, innerAdded, hm, hia, rfl⟩ := predicateConditions_eq_ok.1 hp
    refine predicateConditions_eq_ok.2 ⟨_, _, classify_conjoin hn hm, ?_, rfl⟩
    show gather (parenthesize w).innerConditions (parenthesize added).innerConditions = _
    rw [innerConditions_parenthesize, innerConditions_parenthesize, hi, hia]
    rfl

/-! ## Merged conditions -/

/-- The conditions of a statement that takes additions, section by section. -/
structure Sections (st : Statement) where
  before : List Node
  joins : List Node
  middle : List Node
  wheres : List Node
  after : List Node
  before_eq : gather (firstConditions st) (beforeLastJoins (joinedRelations st)) = .ok before
  joins_eq : Join.conditionsList (lastJoins (joinedRelations st)) = .ok joins
  middle_eq : middleConditions st = .ok middle
  wheres_eq : Expr.predicateConditions .where_ (selection st) = .ok wheres
  after_eq : lastConditions st = .ok after

namespace Sections

def nodes (s : Sections st) : List Node := s.before ++ s.joins ++ s.middle ++ s.wheres ++ s.after

theorem conditions_eq (s : Sections st) (h : takesJoins st = true) : st.conditions = .ok s.nodes := by
  rw [Merge.conditions_eq h, conditionsList_eq, gather_assoc, ← gather_assoc, s.before_eq, s.joins_eq, s.middle_eq,
    s.wheres_eq, s.after_eq]
  simp [nodes]

end Sections

theorem exists_sections {ns : List Node} (h : takesJoins st = true) (hn : st.conditions = .ok ns) :
    ∃ s : Sections st, ns = s.nodes := by
  have hs := hn
  rw [conditions_eq h, conditionsList_eq, gather_assoc, ← gather_assoc] at hs
  obtain ⟨before, rest, hbefore, h1, -⟩ := gather_eq_ok.1 hs
  obtain ⟨joins, rest, hjoins, h2, -⟩ := gather_eq_ok.1 h1
  obtain ⟨middle, rest, hmiddle, h3, -⟩ := gather_eq_ok.1 h2
  obtain ⟨wheres, after, hwheres, hafter, -⟩ := gather_eq_ok.1 h3
  let s : Sections st := ⟨before, joins, middle, wheres, after, hbefore, hjoins, hmiddle, hwheres, hafter⟩
  exact ⟨s, Except.ok.inj (hn.symm.trans (s.conditions_eq h))⟩

/-- The sections of a statement that took joins. -/
def Sections.addJoins (s : Sections st) (h : takesJoins st = true) (slot : Slot) {js : List Node}
    (hj : Join.conditionsList joins = .ok js) : Sections (addJoins joins slot st) :=
  { s with
    joins := s.joins ++ js
    before_eq := by
      obtain ⟨hrelations, hfirst, -, -⟩ := addJoins_sections joins slot st
      rw [hrelations, hfirst, (changeLast_appendJoins joins (joinedRelations_ne_nil h)).1, s.before_eq]
    joins_eq := by
      obtain ⟨hrelations, -, -, -⟩ := addJoins_sections joins slot st
      rw [hrelations, (changeLast_appendJoins joins (joinedRelations_ne_nil h)).2, Join.conditionsList_append, s.joins_eq, hj]
      rfl
    middle_eq := (addJoins_sections joins slot st).2.2.1.trans s.middle_eq
    wheres_eq := (congrArg _ (selection_addJoins joins slot st)).trans s.wheres_eq
    after_eq := (addJoins_sections joins slot st).2.2.2.trans s.after_eq }

/-- The sections of a statement that took a predicate. -/
def Sections.addPredicate (s : Sections st) (h : takesJoins st = true) {p : Expr}
    (hp : Expr.predicateConditions .where_ (some p) = .ok ps) : Sections (addPredicate p st) :=
  { s with
    wheres := conjoinNodes (selection st) (some p) s.wheres ps
    before_eq := by
      obtain ⟨hrelations, hfirst, -, -⟩ := addPredicate_sections p st
      rw [hrelations, hfirst, s.before_eq]
    joins_eq := by rw [(addPredicate_sections p st).1, s.joins_eq]
    middle_eq := (addPredicate_sections p st).2.2.1.trans s.middle_eq
    wheres_eq := by rw [selection_addPredicate p h, predicateConditions_conjoin s.wheres_eq hp]
    after_eq := (addPredicate_sections p st).2.2.2.trans s.after_eq }

theorem Sections.conditions_withPredicate (s : Sections st) (h : takesJoins st = true) {predicate : Option Expr}
    (hp : Expr.predicateConditions .where_ predicate = .ok ps) :
    (withPredicate predicate st).conditions = .ok (s.before ++ s.joins ++ s.middle ++
      conjoinNodes (selection st) predicate s.wheres ps ++ s.after) := by
  cases predicate with
  | none =>
    cases hp
    have hnone : conjoinNodes (selection st) none s.wheres [] = s.wheres := by simp [conjoinNodes]
    rw [hnone]
    exact s.conditions_eq h
  | some p => exact (s.addPredicate h hp).conditions_eq ((takesJoins_addPredicate p st).trans h)

/-- The conditions of a merged statement are the old ones, section by section, with those of the added joins after
those of the join list that they extend, and with the predicate conjoined to WHERE. -/
theorem conditions_build (c : Config) (total : Nat) (st merged : Statement) (adds : Additions) (ns js ps : List Node)
    (hb : build c total st adds = .ok merged) (hn : st.conditions = .ok ns)
    (hj : Join.conditionsList adds.joins = .ok js) (hp : Expr.predicateConditions .where_ adds.predicate = .ok ps) :
    ∃ s : Sections st, ns = s.nodes ∧ merged.conditions = .ok (s.before ++ (s.joins ++ js) ++ s.middle ++
      conjoinNodes (selection st) adds.predicate s.wheres ps ++ s.after) := by
  obtain ⟨a, joined, ha, -, hw, rfl⟩ := build_eq_ok hb
  have ht := takesJoins_of_attachPoint ha
  obtain ⟨s, rfl⟩ := exists_sections ht hn
  refine ⟨s, rfl, ?_⟩
  rcases withJoins_eq_ok hw with ⟨hnil, rfl⟩ | rfl
  · rw [hnil] at hj
    cases hj
    rw [List.append_nil]
    exact s.conditions_withPredicate ht hp
  · have hmerged := (s.addJoins ht a.slot hj).conditions_withPredicate (takesJoins_addJoins adds.joins a.slot ht) hp
    rw [selection_addJoins] at hmerged
    exact hmerged

/-- `FROM users JOIN orders ON paid WHERE live HAVING many` with a join of notes on `shown` and the predicate `mine`. -/
theorem conditions_build_notes :
    let column (name : String) : Expr := .ident ⟨name, none⟩
    let table (name : String) : Factor := .table [⟨name, none⟩] none ⟨[], false, []⟩ []
    let join (name on : String) : Join := ⟨false, .inner, table name, none, some (column on), .none⟩
    let st := Statement.query ⟨false, [], .select ⟨false, [], [.wildcard none []], none,
      [⟨table "users", [join "orders" "paid"]⟩], [], some (column "live"), [], some (column "many"), []⟩, []⟩
    let adds : Additions := ⟨[join "notes" "shown"], 0, some (column "mine"), 0⟩
    let node (name : String) (p : Position) : Node := .leaf .isTrue ⟨p, [name], 0, 0, name⟩
    ∃ merged, build ⟨.mysql, true⟩ 0 st adds = .ok merged ∧
      st.conditions = .ok [node "paid" .joinOn, node "live" .where_, node "many" .having] ∧
      merged.conditions = .ok [node "paid" .joinOn, node "shown" .joinOn,
        .group .and ⟨.where_, ["live", "mine"], 0, 0, "(live) AND (mine)"⟩ [node "live" .where_, node "mine" .where_],
        node "many" .having] := by
  intro column table join st adds node
  obtain ⟨merged, hb⟩ := exists_eq_ok (x := build ⟨.mysql, true⟩ 0 st adds) (by decide +kernel)
  have hn : st.conditions = .ok [node "paid" .joinOn, node "live" .where_, node "many" .having] := rfl
  have hj : Join.conditionsList adds.joins = .ok [node "shown" .joinOn] := rfl
  have hp : Expr.predicateConditions .where_ adds.predicate = .ok [node "mine" .where_] := rfl
  obtain ⟨s, -, hmerged⟩ := conditions_build ⟨.mysql, true⟩ 0 st merged adds _ _ _ hb hn hj hp
  -- the sections of the statement
  have hbefore : s.before = [] := Except.ok.inj (s.before_eq.symm.trans rfl)
  have hjoins : s.joins = [node "paid" .joinOn] := Except.ok.inj (s.joins_eq.symm.trans rfl)
  have hmiddle : s.middle = [] := Except.ok.inj (s.middle_eq.symm.trans rfl)
  have hwheres : s.wheres = [node "live" .where_] := Except.ok.inj (s.wheres_eq.symm.trans rfl)
  have hafter : s.after = [node "many" .having] := Except.ok.inj (s.after_eq.symm.trans rfl)
  have hcolumns : Text.distinct ["live", "mine"] = ["live", "mine"] := by decide
  have hsql : (conjoin (some (column "live")) (column "mine")).print = "(live) AND (mine)" := by decide +kernel
  have hgroup : group (conjoin (some (column "live")) (column "mine")) .where_ .and
      [node "live" .where_, node "mine" .where_] = .group .and ⟨.where_, ["live", "mine"], 0, 0, "(live) AND (mine)"⟩
        [node "live" .where_, node "mine" .where_] := by
    show Node.group .and ⟨.where_, Text.distinct ["live", "mine"], 0, 0, _⟩ _ = _
    rw [hcolumns, hsql]
  refine ⟨merged, hb, hn, hmerged.trans ?_⟩
  rw [hbefore, hjoins, hmiddle, hwheres, hafter, ← hgroup]
  rfl

end Merge

end SqlTemplate
