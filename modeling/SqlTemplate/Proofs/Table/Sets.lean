/-
Sets of table references as lists: no two entries have the same key, the entry of a key is the first reference with that
key, and the first entry is the first reference of all.
-/
import SqlTemplate.Table.Reference
import Mathlib.Data.List.Nodup

namespace SqlTemplate.Table.Set

variable {s : Set} {r : Reference} {k : Key}

theorem contains_iff : s.contains k = true ↔ ∃ r ∈ s.entries, r.key = k := by
  simp [contains, get?]

theorem insert_of_contains (h : s.contains r.key = true) : s.insert r = s := if_pos h

theorem insert_of_new (h : s.contains r.key = false) : s.insert r = ⟨s.entries ++ [r]⟩ := if_neg (by simp [h])

theorem mem_of_get? (h : s.get? k = some r) : r ∈ s.entries ∧ r.key = k :=
  ⟨List.mem_of_find?_eq_some h, by simpa using List.find?_some h⟩

theorem get?_insert (s : Set) (r : Reference) (k : Key) :
    (s.insert r).get? k = (s.get? k).or (if r.key == k then some r else none) := by
  unfold insert contains
  cases h : s.get? r.key with
  | some t =>
    -- nothing is added, and if the key asked for is that of `r`, there is an entry for it
    rw [Option.isSome_some, if_pos rfl]
    by_cases hk : r.key = k
    · rw [← hk, h]; rfl
    · simp [hk]
  | none =>
    rw [Option.isSome_none, if_neg Bool.false_ne_true]
    simp only [get?, List.find?_append, List.find?_singleton]

theorem get?_foldl_insert (rs : List Reference) (s : Set) (k : Key) :
    (rs.foldl insert s).get? k = (s.get? k).or (rs.find? (·.key == k)) := by
  induction rs generalizing s with
  | nil => simp
  | cons r rs ih =>
    rw [List.foldl_cons, ih, get?_insert, Option.or_assoc]
    cases hk : r.key == k <;> simp [hk]

theorem get?_ofList (rs : List Reference) (k : Key) : (ofList rs).get? k = rs.find? (·.key == k) := by
  rw [ofList, get?_foldl_insert]
  rfl

theorem contains_ofList {rs : List Reference} {k : Key} : (ofList rs).contains k = true ↔ ∃ r ∈ rs, r.key = k := by
  rw [contains, get?_ofList, List.find?_isSome]
  simp only [beq_iff_eq]

/-- No two entries have the same key. -/
def Distinct (s : Set) : Prop := (s.entries.map Reference.key).Nodup

theorem distinct_empty : empty.Distinct := List.nodup_nil

theorem Distinct.insert (h : s.Distinct) (r : Reference) : (s.insert r).Distinct := by
  cases hr : s.contains r.key with
  | true => rwa [insert_of_contains hr]
  | false =>
    rw [insert_of_new hr, Distinct, List.map_append, List.nodup_append]
    refine ⟨h, by simp, ?_⟩
    intro k hk l hl heq
    obtain ⟨t, ht, rfl⟩ := List.mem_map.1 hk
    have hold : s.contains r.key = true := contains_iff.2 ⟨t, ht, heq.trans (List.mem_singleton.1 hl)⟩
    exact Bool.false_ne_true (hr.symm.trans hold)

theorem Distinct.foldl_insert (h : s.Distinct) (rs : List Reference) : (rs.foldl Set.insert s).Distinct := by
  induction rs generalizing s with
  | nil => exact h
  | cons r rs ih => exact ih (h.insert r)

theorem distinct_ofList (rs : List Reference) : (ofList rs).Distinct := distinct_empty.foldl_insert rs

/-- Every entry is the one that is found by its key. -/
def Lawful (s : Set) : Prop := ∀ r ∈ s.entries, s.get? r.key = some r

theorem Distinct.lawful (h : s.Distinct) : s.Lawful := by
  intro r hr
  have hc : s.contains r.key = true := contains_iff.2 ⟨r, hr, rfl⟩
  obtain ⟨t, ht⟩ := Option.isSome_iff_exists.1 hc
  obtain ⟨htmem, hkey⟩ := mem_of_get? ht
  rw [ht, List.inj_on_of_nodup_map h htmem hr hkey]

/-- The entries are the references that no other one with the same key precedes. -/
theorem mem_entries_ofList {rs : List Reference} {r : Reference} :
    r ∈ (ofList rs).entries ↔ rs.find? (·.key == r.key) = some r := by
  rw [← get?_ofList]
  exact ⟨(distinct_ofList rs).lawful r, fun h => (mem_of_get? h).1⟩

theorem mem_of_mem_entries {rs : List Reference} {r : Reference} (h : r ∈ (ofList rs).entries) : r ∈ rs :=
  List.mem_of_find?_eq_some (mem_entries_ofList.1 h)

theorem head?_insert (s : Set) (r : Reference) : (s.insert r).entries.head? = s.entries.head?.or (some r) := by
  unfold insert
  split
  · rename_i h
    cases hs : s.entries with
    | nil => simp [contains, get?, hs] at h
    | cons t ts => rfl
  · cases hs : s.entries <;> rfl

/-- A set begins with the first reference. -/
theorem head?_ofList (rs : List Reference) : (ofList rs).entries.head? = rs.head? := by
  have hfold : ∀ (rs : List Reference) (s : Set), (rs.foldl insert s).entries.head? = s.entries.head?.or rs.head? := by
    intro rs
    induction rs with
    | nil => exact fun s => (Option.or_none).symm
    | cons r rs ih =>
      intro s
      rw [List.foldl_cons, ih, head?_insert, Option.or_assoc]
      rfl
  rw [ofList, hfold]
  rfl

end SqlTemplate.Table.Set
