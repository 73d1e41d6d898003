/-
Sets of table references as lists without repetitions. However a set comes about, by insertions one by one or by unions
of other sets, its entries are the first references of each key among all that were put in, in the order in which they
came; unions may be regrouped and repeated.
-/
import SqlTemplate.Proofs.Table.Sets

namespace SqlTemplate.Table

/-- The first reference of each key. -/
def firsts (rs : List Reference) : List Reference := rs.eraseDupsBy fun r t => r.key == t.key

theorem firsts_cons (r : Reference) (rs : List Reference) :
    firsts (r :: rs) = r :: firsts (rs.filter fun t => !(t.key == r.key)) := by
  rw [firsts, List.eraseDupsBy_cons, firsts]
  simp only [Bool.decide_eq_false]

/-- References without repeated keys are all kept. -/
theorem firsts_of_nodup {rs : List Reference} (h : (rs.map Reference.key).Nodup) : firsts rs = rs := by
  induction rs with
  | nil => rfl
  | cons r rs ih =>
    obtain ⟨hr, hrs⟩ := List.nodup_cons.1 h
    have hfilter : (rs.filter fun t => !(t.key == r.key)) = rs := by
      rw [List.filter_eq_self]
      intro t ht
      have hne : t.key ≠ r.key := fun heq => hr (heq ▸ List.mem_map_of_mem ht)
      simp [hne]
    rw [firsts_cons, hfilter, ih hrs]

namespace Set

variable {s t : Set}

/-! ## Insertions -/

theorem contains_insert (s : Set) (r : Reference) (k : Key) :
    (s.insert r).contains k = (s.contains k || r.key == k) := by
  rw [contains, get?_insert, Option.isSome_or]
  cases h : r.key == k <;> simp [contains]

theorem insertNew_eq (s : Set) (r : Reference) : s.insertNew r = (!s.contains r.key, s.insert r) := by
  cases h : s.contains r.key with
  | true => rw [insert_of_contains h, insertNew, if_pos h]; rfl
  | false => rw [insert_of_new h, insertNew, if_neg (by simp [h])]; rfl

theorem entries_foldl_insert (rs : List Reference) (s : Set) :
    (rs.foldl insert s).entries = s.entries ++ firsts (rs.filter fun r => !s.contains r.key) := by
  induction rs generalizing s with
  | nil => exact (List.append_nil _).symm
  | cons r rs ih =>
    rw [List.foldl_cons, ih]
    cases hr : s.contains r.key with
    | true => rw [insert_of_contains hr, List.filter_cons_of_neg (by simp [hr])]
    | false =>
      -- `r` comes first, and of the others those remain whose keys are neither in `s` nor that of `r`
      have hfilter : (rs.filter fun t => !(s.insert r).contains t.key) =
          (rs.filter fun t => !s.contains t.key).filter fun t => !(t.key == r.key) := by
        rw [List.filter_filter]
        refine List.filter_congr fun t _ => ?_
        rw [contains_insert, Bool.not_or, Bool.and_comm, BEq.comm]
      rw [hfilter, insert_of_new hr, List.filter_cons_of_pos (by simp [hr]), firsts_cons, List.append_assoc,
        List.singleton_append]

theorem entries_ofList (rs : List Reference) : (ofList rs).entries = firsts rs := by
  rw [ofList, entries_foldl_insert]
  simp [empty, contains, get?]

theorem eq_of_entries (h : s.entries = t.entries) : s = t := by
  cases s
  cases t
  exact congrArg Set.mk h

theorem ofList_entries (h : s.Distinct) : ofList s.entries = s :=
  eq_of_entries ((entries_ofList s.entries).trans (firsts_of_nodup h))

/-! ## Unions -/

theorem contains_union (s t : Set) (k : Key) : (s.union t).contains k = (s.contains k || t.contains k) := by
  rw [contains, union, get?_foldl_insert, Option.isSome_or]
  rfl

/-- It makes no difference whether references were put into another set before. -/
theorem union_foldl_insert (rs : List Reference) (s t : Set) :
    s.union (rs.foldl insert t) = rs.foldl insert (s.union t) := by
  induction rs generalizing t with
  | nil => rfl
  | cons r rs ih =>
    have hstep : s.union (t.insert r) = (s.union t).insert r := by
      cases hr : t.contains r.key with
      | true =>
        have hunion : (s.union t).contains r.key = true := by rw [contains_union, hr, Bool.or_true]
        rw [insert_of_contains hr, insert_of_contains hunion]
      | false =>
        rw [insert_of_new hr, union, List.foldl_append]
        rfl
    rw [List.foldl_cons, ih, hstep, List.foldl_cons]

theorem ofList_append (rs ts : List Reference) : ofList (rs ++ ts) = (ofList rs).union (ofList ts) := by
  rw [ofList, List.foldl_append]
  exact (union_foldl_insert ts (ofList rs) empty).symm

theorem union_assoc (s t u : Set) : (s.union t).union u = s.union (t.union u) := (union_foldl_insert u.entries s t).symm

theorem empty_union (h : s.Distinct) : empty.union s = s := ofList_entries h

theorem union_self (s : Set) : s.union s = s := by
  apply eq_of_entries
  have hold : (s.entries.filter fun r => !s.contains r.key) = [] := by
    rw [List.filter_eq_nil_iff]
    intro r hr
    simp [contains_iff.2 ⟨r, hr, rfl⟩]
  rw [union, entries_foldl_insert, hold]
  exact List.append_nil _

end Set

/-! ## Histories -/

/-- How a set comes about: from nothing, by an insertion into a set, or as the union of two sets. -/
inductive History where
  | empty
  | insert (h : History) (r : Reference)
  | union (h k : History)

namespace History

/-- The set that comes about. -/
def run : History → Set
  | .empty => .empty
  | .insert h r => (h.run.insertNew r).2
  | .union h k => h.run.union k.run

/-- All references that are put in, in order. -/
def fed : History → List Reference
  | .empty => []
  | .insert h r => h.fed ++ [r]
  | .union h k => h.fed ++ k.fed

/-- Only what is put in, and in which order, matters. -/
theorem run_eq (h : History) : h.run = .ofList h.fed := by
  induction h with
  | empty => rfl
  | insert h r ih =>
    rw [run, fed, Set.insertNew_eq, ih, Set.ofList, Set.ofList, List.foldl_append]
    rfl
  | union h k ihh ihk => rw [run, fed, ihh, ihk, Set.ofList_append]

/-- The entries of a set are the first references of each key among all that were put in, whatever insertions and unions
it went through, and they are found by every spelling of their keys. An insertion tells whether the key is new; unions
may be regrouped and repeated, and the empty set adds nothing. -/
theorem run_keeps_firsts (h k l : History) :
    (h.run.entries = firsts h.fed ∧ (h.run.entries.map Reference.key).Nodup) ∧
    (∀ r, (h.run.insertNew r).1 = true ↔ ∀ t ∈ h.fed, t.key ≠ r.key) ∧
    ((h.run.union k.run).union l.run = h.run.union (k.run.union l.run) ∧ h.run.union .empty = h.run ∧
      Set.empty.union h.run = h.run ∧ h.run.union h.run = h.run) ∧
    ∀ name aliasName, h.run.get? (keyOf name aliasName) = h.fed.find? (·.key == keyOf name aliasName) ∧
      ((h.run.get? (keyOf name aliasName)).isSome = true ↔ ∃ t ∈ h.fed, t.key = keyOf name aliasName) := by
  have hdistinct : h.run.Distinct := by
    rw [run_eq]
    exact Set.distinct_ofList h.fed
  refine ⟨⟨?_, hdistinct⟩, fun r => ?_, ⟨?_, rfl, ?_, ?_⟩, fun name aliasName => ⟨?_, ?_⟩⟩
  · rw [run_eq, Set.entries_ofList]
  · rw [Set.insertNew_eq, run_eq, Bool.not_eq_true', ← Bool.not_eq_true, Set.contains_ofList]
    simp only [not_exists, not_and]
  · exact Set.union_assoc h.run k.run l.run
  · exact Set.empty_union hdistinct
  · exact Set.union_self h.run
  · rw [run_eq, Set.get?_ofList]
  · rw [run_eq]
    exact Set.contains_ofList

/-- The second `Users` is put in under another spelling and in another role. -/
example : (History.union (.insert .empty ⟨"Users", none, .main⟩)
    (.insert (.insert .empty ⟨"[users]", none, .join⟩) ⟨"orders", some "o", .join⟩)).run.entries =
    [⟨"Users", none, .main⟩, ⟨"orders", some "o", .join⟩] := by
  decide +kernel

end History

end SqlTemplate.Table
