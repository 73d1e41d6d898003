/-
The names that a merge brings in. Those of the relations that are added are new: none is bound in the statement that they
are added to, and none is brought in twice; otherwise the merge cannot be made. Relations that are computed count as
without a name, so that their aliases are the one way in which a name can come to be bound twice.
-/
import SqlTemplate.Proofs.Merge.Frame
import Mathlib.Data.List.Nodup
import Mathlib.Tactic.Tauto

namespace SqlTemplate

/-! ## Names of computed relations -/

section

variable (own : Factor → List String)

mutual

/-- The keys of a relation, computed ones included, which go by what `own` says. -/
def Factor.keys : Factor → List String
  | .table _ (some a) _ _ => [a.binding]
  | .table name none _ _ => nameBindings name
  | .tableCall _ _ (some a) _ _ => [a.binding]
  | .tableCall name _ none _ _ => nameBindings name
  | .derived _ _ aliasName => (aliasName.map TableAlias.binding).toList
  | .nested _ (some a) => [a.binding]
  | .nested t none => t.keys
  | .computed body aliasName rest => own (.computed body aliasName rest)
  | .turned f turn aliasName => own (.turned f turn aliasName)

def TableTree.keys : TableTree → List String
  | ⟨relation, joins⟩ => relation.keys ++ Join.keysList joins

def Join.keys : Join → List String
  | ⟨_, _, relation, _, _, _⟩ => relation.keys

def Join.keysList : List Join → List String
  | [] => []
  | j :: js => j.keys ++ Join.keysList js

end

mutual

/-- The keys of the computed relations alone. -/
def Factor.computedKeys : Factor → List String
  | .nested t none => t.computedKeys
  | .computed body aliasName rest => own (.computed body aliasName rest)
  | .turned f turn aliasName => own (.turned f turn aliasName)
  | _ => []

def TableTree.computedKeys : TableTree → List String
  | ⟨relation, joins⟩ => relation.computedKeys ++ Join.computedKeysList joins

def Join.computedKeys : Join → List String
  | ⟨_, _, relation, _, _, _⟩ => relation.computedKeys

def Join.computedKeysList : List Join → List String
  | [] => []
  | j :: js => j.computedKeys ++ Join.computedKeysList js

end

def treeKeys (trees : List TableTree) : List String := trees.flatMap (TableTree.keys own)

def treeComputedKeys (trees : List TableTree) : List String := trees.flatMap (TableTree.computedKeys own)

/-- Two lists that are each in two parts, put together part by part. -/
theorem perm_append_append {α : Type} {as bs cs ds es fs : List α} (h : as.Perm (bs ++ cs)) (h' : ds.Perm (es ++ fs)) :
    (as ++ ds).Perm (bs ++ es ++ (cs ++ fs)) := by
  refine (h.append h').trans ?_
  -- only the two parts in the middle change places
  rw [List.append_assoc, List.append_assoc]
  exact (List.perm_append_comm_assoc cs es fs).append_left bs

mutual

theorem Factor.keys_perm : ∀ f : Factor, (f.keys own).Perm (f.bindings ++ f.computedKeys own)
  | .table _ (some _) _ _ => .refl _
  | .table _ none _ _ => .of_eq (List.append_nil _).symm
  | .tableCall _ _ (some _) _ _ => .refl _
  | .tableCall _ _ none _ _ => .of_eq (List.append_nil _).symm
  | .derived _ _ _ => .of_eq (List.append_nil _).symm
  | .nested _ (some _) => .refl _
  | .nested t none => t.keys_perm
  | .computed _ _ _ => .refl _
  | .turned _ _ _ => .refl _

theorem TableTree.keys_perm : ∀ t : TableTree, (t.keys own).Perm (t.bindings ++ t.computedKeys own)
  | ⟨relation, joins⟩ => perm_append_append relation.keys_perm (Join.keysList_perm joins)

theorem Join.keys_perm : ∀ j : Join, (j.keys own).Perm (j.bindings ++ j.computedKeys own)
  | ⟨_, _, relation, _, _, _⟩ => relation.keys_perm

theorem Join.keysList_perm : ∀ js : List Join,
    (Join.keysList own js).Perm (Join.bindingsList js ++ Join.computedKeysList own js)
  | [] => .refl _
  | j :: js => perm_append_append j.keys_perm (Join.keysList_perm js)

end

theorem treeKeys_perm (trees : List TableTree) :
    (treeKeys own trees).Perm (treeBindings trees ++ treeComputedKeys own trees) := by
  induction trees with
  | nil => exact .refl _
  | cons t ts ih => exact perm_append_append (t.keys_perm own) ih

end

namespace Merge

open Template (parse)

/-! ## New keys -/

/-- Keys that are not bound, and each of them only once. -/
def Fresh (bound keys : List String) : Prop := keys.Nodup ∧ bound.Disjoint keys

/-- The first of several new keys is bound when the others are asked for. -/
theorem fresh_cons {bound keys : List String} {k : String} :
    Fresh bound (k :: keys) ↔ k ∉ bound ∧ Fresh (bound ++ [k]) keys := by
  rw [Fresh, Fresh, List.nodup_cons, List.disjoint_cons_right, List.disjoint_append_left, List.singleton_disjoint]
  tauto

theorem bind_eq_ok_iff {bound keys all : List String} : bind bound keys = .ok all ↔ Fresh bound keys ∧ all = bound ++ keys := by
  induction keys generalizing bound with
  | nil => simp [bind, Fresh, eq_comm]
  | cons k ks ih =>
    rw [bind, fresh_cons]
    by_cases hbound : k ∈ bound
    · rw [if_pos (List.contains_iff_mem.2 hbound)]
      exact iff_of_false (by simp) fun h => h.1.1 hbound
    · rw [if_neg (mt List.contains_iff_mem.1 hbound), ih, List.append_assoc, and_iff_right hbound]
      rfl

/-- When more keys are bound, and more are asked for, than those that are new: the others must be new among all. -/
theorem fresh_append_iff {bound bound' keys keys' : List String} (h : Fresh bound keys) :
    Fresh (bound ++ bound') (keys ++ keys') ↔ bound'.Disjoint keys ∧ Fresh (bound ++ bound' ++ keys) keys' := by
  obtain ⟨hnodup, hdisjoint⟩ := h
  simp only [Fresh, List.nodup_append', List.disjoint_append_left, List.disjoint_append_right]
  tauto

theorem fresh_perm {bound bound' keys keys' : List String} (hb : bound.Perm bound') (hk : keys.Perm keys') :
    Fresh bound keys ↔ Fresh bound' keys' :=
  and_congr hk.nodup_iff (hb.disjoint_left.trans hk.disjoint_right)

/-! ## Relations of a statement -/

/-- The relations that a statement itself reads or changes, those of its subqueries left out. -/
def outerScope : Statement → List TableTree
  | .query ⟨_, _, .select s, _⟩ => s.tables
  | .update u => u.table :: u.sources
  | .delete d => d.tables ++ d.usingTables
  | _ => []

variable {c : Config} {st : Statement} {a : AttachPoint} {adds : Additions}

theorem exists_of_count {texts : List String} {f : Nat → Except Error AttachPoint} (h : (countAll c texts >>= f) = .ok a) :
    ∃ n, f n = .ok a := by
  obtain ⟨n, -, h⟩ := bind_eq_ok.1 h
  exact ⟨n, h⟩

theorem bound_of_selectPoint {recursive : Bool} {ctes : List Cte} {s : Select}
    (h : selectPoint c recursive ctes s = .ok a) : a.bound = treeBindings s.tables := by
  obtain ⟨_, h⟩ := exists_of_count h
  obtain ⟨_, h⟩ := exists_of_count h
  obtain ⟨_, h⟩ := exists_of_count h
  obtain ⟨_, h⟩ := exists_of_count h
  split at h <;> cases h
  rfl

theorem bound_of_updatePoint {u : Update} (h : updatePoint c u = .ok a) : a.bound = treeBindings (u.table :: u.sources) := by
  obtain ⟨_, h⟩ := exists_of_count h
  obtain ⟨_, h⟩ := exists_of_count h
  obtain ⟨_, h⟩ := exists_of_count h
  obtain ⟨_, h⟩ := exists_of_count h
  simp only at h
  split at h
  · cases h
    rfl
  · split at h <;> cases h <;> rfl

theorem bound_of_deletePoint {del : Delete} (h : deletePoint c del = .ok a) :
    a.bound = treeBindings (del.tables ++ del.usingTables) := by
  unfold deletePoint at h
  simp only at h
  split at h
  · cases h
  · obtain ⟨_, h⟩ := exists_of_count h
    obtain ⟨_, h⟩ := exists_of_count h
    obtain ⟨_, h⟩ := exists_of_count h
    obtain ⟨_, h⟩ := exists_of_count h
    cases h
    exact List.flatMap_append.symm

/-- What is bound at a place for joins are the names of the relations of the statement. -/
theorem bound_of_attachPoint (h : attachPoint c st = .ok a) : a.bound = treeBindings (outerScope st) := by
  unfold attachPoint at h
  split at h
  · exact bound_of_selectPoint h
  · cases h
  · exact bound_of_updatePoint h
  · exact bound_of_deletePoint h
  · cases h
  · cases h

/-! ## Merges -/

/-- Nothing is built with names that are not new. -/
theorem build_not_fresh (total : Nat) (h : ¬Fresh (treeBindings (outerScope st)) (Join.bindingsList adds.joins)) :
    ∃ e, build c total st adds = .error e ∧ (Refused e ↔ Tokenizes c (pieces st)) := by
  rcases attachPoint_ends c st with ⟨htok, ⟨-, a, ha, -⟩ | ⟨-, e, he, hrefused⟩⟩ | ⟨htok, e, he, hparse⟩
  · rw [← bound_of_attachPoint ha] at h
    -- placeholders are looked at before names; if they are in the way too, the merge is refused for them
    cases hc : checkMarkers total a adds with
    | error e =>
      have hb : build c total st adds = .error e := bind_eq_error.2 (.inr ⟨a, ha, bind_eq_error.2 (.inl hc)⟩)
      exact ⟨e, hb, fun _ => htok, fun _ => refused_of_checkMarkers hc⟩
    | ok =>
      cases hbind : bind a.bound (Join.bindingsList adds.joins) with
      | ok all => exact absurd (bind_eq_ok_iff.1 hbind).1 h
      | error e =>
        have hb : build c total st adds = .error e := by
          refine bind_eq_error.2 (.inr ⟨a, ha, bind_eq_error.2 (.inr ⟨_, hc, bind_eq_error.2 (.inl ?_)⟩)⟩)
          rw [hbind]
          rfl
        exact ⟨e, hb, fun _ => htok, fun _ => refused_of_bind hbind⟩
  · exact ⟨e, bind_eq_error.2 (.inl he), fun _ => htok, fun _ => hrefused⟩
  · exact ⟨e, bind_eq_error.2 (.inl he), fun hr => absurd hr (not_refused_of_isParseFailure hparse), fun h => absurd h htok⟩

variable {template : String} {join predicate : Option String} {parsed : Template.Parsed}

/-- A merge of a statement and fragments that are read fails as the build fails. -/
theorem merge_of_build {P : Error → Prop} (hp : parse c template = .ok parsed)
    (hadds : readAdditions c join predicate = .ok adds)
    (h : ∀ total, ∃ e, build c total parsed.statement adds = .error e ∧ P e) :
    ∃ e, merge c template join predicate = .error e ∧ P e := by
  obtain ⟨hnormalized, hsingle⟩ := Template.parse_eq_ok hp
  obtain ⟨tokens, ht⟩ := Template.tokenize_of_parseSingle hsingle
  rw [← hnormalized] at ht
  obtain ⟨e, he, hP⟩ := h (Parameter.count tokens)
  have hexplain : explain "original statement does not parse" (parse c template) = .ok parsed := by rw [hp]; rfl
  refine ⟨e, bind_eq_error.2 (.inr ⟨parsed, hexplain, ?_⟩), hP⟩
  exact bind_eq_error.2 (.inr ⟨tokens, ht, bind_eq_error.2 (.inr ⟨adds, hadds, bind_eq_error.2 (.inl he)⟩)⟩)

theorem fresh_of_merge {text : String} (hp : parse c template = .ok parsed)
    (hadds : readAdditions c join predicate = .ok adds) (h : merge c template join predicate = .ok text) :
    Fresh (treeBindings (outerScope parsed.statement)) (Join.bindingsList adds.joins) := by
  by_contra hno
  obtain ⟨e, he, -⟩ := merge_of_build hp hadds fun total => build_not_fresh total hno
  cases h.symm.trans he

/-- A merge brings in new names only, once each; joins with others are refused: as a merge that cannot be made, unless a
printed piece of the statement is no text of the dialect. Computed relations are left out of this, so that whatever names
they go by, all names are new if and only if no name of a computed relation is bound otherwise. -/
theorem merge_fresh (hp : parse c template = .ok parsed) (hadds : readAdditions c join predicate = .ok adds) :
    (∀ text, merge c template join predicate = .ok text →
      Fresh (treeBindings (outerScope parsed.statement)) (Join.bindingsList adds.joins) ∧
      ∀ own, Fresh (treeKeys own (outerScope parsed.statement)) (Join.keysList own adds.joins) ↔
        (treeComputedKeys own (outerScope parsed.statement)).Disjoint (Join.bindingsList adds.joins) ∧
        Fresh (treeBindings (outerScope parsed.statement) ++ treeComputedKeys own (outerScope parsed.statement) ++
          Join.bindingsList adds.joins) (Join.computedKeysList own adds.joins)) ∧
    (¬Fresh (treeBindings (outerScope parsed.statement)) (Join.bindingsList adds.joins) →
      ∃ e, merge c template join predicate = .error e ∧ (Refused e ↔ Tokenizes c (pieces parsed.statement))) := by
  refine ⟨fun text hm => ?_, fun hno => merge_of_build hp hadds fun total => build_not_fresh total hno⟩
  have hfresh := fresh_of_merge hp hadds hm
  refine ⟨hfresh, fun own => ?_⟩
  rw [fresh_perm (treeKeys_perm own _) (Join.keysList_perm own _)]
  exact fresh_append_iff hfresh

/-- Computed relations that go by their aliases. -/
def byAlias (f : Factor) : List String := (f.alias?.map TableAlias.binding).toList

/-- A join of another table is new, in a SELECT from one; a join of the same table, in other letters, is refused. -/
theorem merge_fresh_join :
    (∃ parsed adds, parse ⟨.mysql, true⟩ "SELECT a FROM t" = .ok parsed ∧
      readAdditions ⟨.mysql, true⟩ (some "JOIN u ON u.x = 1") none = .ok adds ∧
      Fresh (treeKeys byAlias (outerScope parsed.statement)) (Join.keysList byAlias adds.joins)) ∧
    ∃ e, merge ⟨.mysql, true⟩ "SELECT a FROM t" (some "JOIN T ON T.x = 1") none = .error e ∧ Refused e := by
  obtain ⟨parsed, hp, hread⟩ := exists_of_toOption_map
    (f := fun p => (treeBindings (outerScope p.statement), treeComputedKeys byAlias (outerScope p.statement), pieces p.statement))
    (b := (["t"], [], ["a", "t"])) (x := parse ⟨.mysql, true⟩ "SELECT a FROM t") (by decide +kernel)
  obtain ⟨hbindings, hread⟩ := Prod.mk.inj hread
  obtain ⟨hcomputed, hpieces⟩ := Prod.mk.inj hread
  constructor
  · have hjoin : (readAdditions ⟨.mysql, true⟩ (some "JOIN u ON u.x = 1") none).toOption.map
          (fun adds => Join.computedKeysList byAlias adds.joins) = some [] ∧
        (merge ⟨.mysql, true⟩ "SELECT a FROM t" (some "JOIN u ON u.x = 1") none).toOption.isSome = true := by
      decide +kernel
    obtain ⟨adds, hadds, hnone⟩ := exists_of_toOption_map hjoin.1
    obtain ⟨text, hm⟩ := exists_eq_ok hjoin.2
    refine ⟨parsed, adds, hp, hadds, (((merge_fresh hp hadds).1 text hm).2 byAlias).2 ?_⟩
    rw [hcomputed, hnone]
    exact ⟨List.disjoint_nil_left _, List.nodup_nil, List.disjoint_nil_right _⟩
  · obtain ⟨adds, hadds, hkeys⟩ := exists_of_toOption_map (f := fun adds => Join.bindingsList adds.joins) (b := ["t"])
      (x := readAdditions ⟨.mysql, true⟩ (some "JOIN T ON T.x = 1") none) (by decide +kernel)
    have hbound : ¬Fresh (treeBindings (outerScope parsed.statement)) (Join.bindingsList adds.joins) := by
      rw [hbindings, hkeys]
      exact fun h => h.2 (List.mem_singleton.2 rfl) (List.mem_singleton.2 rfl)
    obtain ⟨e, he, hrefused⟩ := (merge_fresh hp hadds).2 hbound
    refine ⟨e, he, hrefused.2 ?_⟩
    rw [hpieces]
    exact List.forall_mem_cons.2 ⟨exists_eq_ok (by decide +kernel),
      List.forall_mem_cons.2 ⟨exists_eq_ok (by decide +kernel), List.forall_mem_nil _⟩⟩

/-- The join brings in the alias of an UNNEST that is the name of the table already. -/
theorem not_merge_fresh_unnest :
    ∃ parsed adds, parse ⟨.postgresql, true⟩ "SELECT a FROM t" = .ok parsed ∧
      readAdditions ⟨.postgresql, true⟩ (some "CROSS JOIN UNNEST(b) AS t") none = .ok adds ∧
      merge ⟨.postgresql, true⟩ "SELECT a FROM t" (some "CROSS JOIN UNNEST(b) AS t") none =
        .ok "SELECT a FROM t CROSS JOIN UNNEST(b) AS t" ∧
      ¬Fresh (treeKeys byAlias (outerScope parsed.statement)) (Join.keysList byAlias adds.joins) := by
  have hread : (parse ⟨.postgresql, true⟩ "SELECT a FROM t").toOption.map
        (fun p => treeKeys byAlias (outerScope p.statement)) = some ["t"] ∧
      (readAdditions ⟨.postgresql, true⟩ (some "CROSS JOIN UNNEST(b) AS t") none).toOption.map
        (fun adds => Join.keysList byAlias adds.joins) = some ["t"] ∧
      (merge ⟨.postgresql, true⟩ "SELECT a FROM t" (some "CROSS JOIN UNNEST(b) AS t") none).toOption =
        some "SELECT a FROM t CROSS JOIN UNNEST(b) AS t" := by decide +kernel
  obtain ⟨hp, hadds, hmerge⟩ := hread
  obtain ⟨parsed, hp, hbound⟩ := exists_of_toOption_map hp
  obtain ⟨adds, hadds, hkeys⟩ := exists_of_toOption_map hadds
  refine ⟨parsed, adds, hp, hadds, eq_ok_of_toOption hmerge, ?_⟩
  rw [hbound, hkeys]
  exact fun h => h.2 (List.mem_singleton.2 rfl) (List.mem_singleton.2 rfl)

end Merge

end SqlTemplate
