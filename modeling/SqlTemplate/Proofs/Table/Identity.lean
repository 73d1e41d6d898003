/-
When two references are to the same table. References are compared by the keys of their names, and the key of a name is
made of the keys of its parts with dots between them, so that a dot inside a quoted part cannot be told from a dot
between two parts. References of the same key are the same part by part if and only if their dots stand inside the same
parts.
-/
import SqlTemplate.Proofs.Name.Parts
import SqlTemplate.Proofs.Table.FirstWins
import Mathlib.Data.List.Forall2
import Mathlib.Data.List.Nodup

namespace SqlTemplate.Table

open Name (Part Qualified)

/-- A reference whose name is put together from parts. -/
structure Written where
  name : Qualified
  aliasName : Option String
  role : Role

namespace Written

def reference (w : Written) : Reference := ⟨w.name.text, w.aliasName, w.role⟩

/-- How many dots there are inside each part of the name. -/
def dots (w : Written) : List Nat := w.name.parts.map fun p => p.key.count '.'

/-- The names have as many parts, and each has the key of the other's; so have the aliases, or there are none. -/
structure Same (v w : Written) : Prop where
  parts : List.Forall₂ (fun p q => p.key = q.key) v.name.parts w.name.parts
  aliases : v.aliasName.map Name.key = w.aliasName.map Name.key

variable {v w : Written}

theorem dots_eq (w : Written) : w.dots = w.name.keys.map fun k => k.count '.' := by
  rw [dots, Qualified.keys, List.map_map]
  rfl

theorem same_iff : Same v w ↔ v.name.keys = w.name.keys ∧ v.aliasName.map Name.key = w.aliasName.map Name.key := by
  have hparts : List.Forall₂ (fun p q => p.key = q.key) v.name.parts w.name.parts ↔ v.name.keys = w.name.keys :=
    calc List.Forall₂ (fun p q => p.key = q.key) v.name.parts w.name.parts
      _ ↔ List.Forall₂ (· = ·) v.name.keys w.name.keys := by
        rw [Qualified.keys, Qualified.keys, List.forall₂_map_left_iff, List.forall₂_map_right_iff]
      _ ↔ v.name.keys = w.name.keys := by rw [List.forall₂_eq_eq_eq]
  constructor
  · intro h
    exact ⟨hparts.1 h.parts, h.aliases⟩
  · intro h
    exact ⟨hparts.2 h.1, h.2⟩

end Written

/-! ## Dots inside parts and between them -/

/-- If two texts have as many dots up to a dot, it is the same one. -/
theorem append_dot_inj {a b r s : List Char} (h : a ++ '.' :: r = b ++ '.' :: s) (hcount : a.count '.' = b.count '.') :
    a = b ∧ r = s := by
  induction a generalizing b with
  | nil =>
    cases b with
    | nil => exact ⟨rfl, (List.cons.inj h).2⟩
    | cons c b =>
      obtain ⟨rfl, -⟩ := List.cons.inj h
      simp at hcount
  | cons c a ih =>
    cases b with
    | nil =>
      obtain ⟨rfl, -⟩ := List.cons.inj h
      simp at hcount
    | cons d b =>
      obtain ⟨rfl, hrest⟩ := List.cons.inj h
      have hcount' : a.count '.' = b.count '.' := by
        rw [List.count_cons, List.count_cons] at hcount
        omega
      obtain ⟨rfl, rfl⟩ := ih hrest hcount'
      exact ⟨rfl, rfl⟩

theorem eq_of_intercalate_dot {as bs : List (List Char)} (h : ['.'].intercalate as = ['.'].intercalate bs)
    (hcount : as.map (fun k => k.count '.') = bs.map fun k => k.count '.') : as = bs := by
  induction as generalizing bs with
  | nil => exact (List.map_eq_nil_iff.1 hcount.symm).symm
  | cons a as ih =>
    cases bs with
    | nil => cases hcount
    | cons b bs =>
      obtain ⟨ha, has⟩ := List.cons.inj hcount
      cases as with
      | nil =>
        obtain rfl := List.map_eq_nil_iff.1 has.symm
        rw [List.intercalate_singleton, List.intercalate_singleton] at h
        rw [h]
      | cons a' as =>
        cases bs with
        | nil => cases has
        | cons b' bs =>
          rw [List.intercalate_cons_cons, List.intercalate_cons_cons, List.append_assoc, List.append_assoc] at h
          obtain ⟨rfl, hrest⟩ := append_dot_inj h ha
          rw [ih hrest has]

/-! ## Identity -/

namespace Written

variable {v w : Written}

theorem key_eq_iff : v.reference.key = w.reference.key ↔
    ['.'].intercalate v.name.keys = ['.'].intercalate w.name.keys ∧
      v.aliasName.map Name.key = w.aliasName.map Name.key := by
  rw [← Name.toList_objectKey, ← Name.toList_objectKey, String.toList_inj]
  exact Prod.ext_iff

theorem same_iff_key_dots : Same v w ↔ v.reference.key = w.reference.key ∧ v.dots = w.dots := by
  rw [same_iff, key_eq_iff, dots_eq, dots_eq]
  constructor
  · rintro ⟨hkeys, haliases⟩
    rw [hkeys]
    exact ⟨⟨rfl, haliases⟩, rfl⟩
  · rintro ⟨⟨hname, haliases⟩, hdots⟩
    exact ⟨eq_of_intercalate_dot hname hdots, haliases⟩

theorem dots_eq_of_reference_eq (h : v.reference = w.reference) : v.dots = w.dots := by
  have hkeys : v.name.keys = w.name.keys := Name.keys_eq_of_text_eq (congrArg Reference.name h)
  rw [dots_eq, dots_eq, hkeys]

/-- Each of the references has an entry in their set that is the same part by part. -/
def KeptApart (ws : List Written) : Prop :=
  ∀ v ∈ ws, ∃ w ∈ ws, w.reference ∈ (Set.ofList (ws.map reference)).entries ∧ Same v w

theorem exists_entry {ws : List Written} (h : v ∈ ws) :
    ∃ w ∈ ws, w.reference ∈ (Set.ofList (ws.map reference)).entries ∧ w.reference.key = v.reference.key := by
  have hc : (Set.ofList (ws.map reference)).contains v.reference.key = true :=
    Set.contains_ofList.2 ⟨v.reference, List.mem_map_of_mem h, rfl⟩
  obtain ⟨r, hr, hkey⟩ := Set.contains_iff.1 hc
  obtain ⟨w, hw, rfl⟩ := List.mem_map.1 (Set.mem_of_mem_entries hr)
  exact ⟨w, hw, hr, hkey⟩

/-- Two references are the same part by part if and only if they are of the same key and have their dots inside the same
parts. So a set loses no table if and only if the references put into it that are of the same key have. -/
theorem same_iff_of_dots (ws : List Written) :
    (∀ v w : Written, Same v w ↔ v.reference.key = w.reference.key ∧ v.dots = w.dots) ∧
      (KeptApart ws ↔ ∀ v ∈ ws, ∀ w ∈ ws, v.reference.key = w.reference.key → v.dots = w.dots) := by
  refine ⟨fun v w => same_iff_key_dots, fun hkept v hv w hw hkey => ?_, fun hdots v hv => ?_⟩
  · obtain ⟨v', -, hv', hsame⟩ := hkept v hv
    obtain ⟨w', -, hw', hsame'⟩ := hkept w hw
    obtain ⟨hkv, hdv⟩ := same_iff_key_dots.1 hsame
    obtain ⟨hkw, hdw⟩ := same_iff_key_dots.1 hsame'
    -- both are kept by the one entry of their key
    have hentry : v'.reference = w'.reference :=
      List.inj_on_of_nodup_map (Set.distinct_ofList _) hv' hw' (hkv.symm.trans (hkey.trans hkw))
    exact hdv.trans ((dots_eq_of_reference_eq hentry).trans hdw.symm)
  · obtain ⟨w, hw, hentry, hkey⟩ := exists_entry hv
    exact ⟨w, hw, hentry, same_iff_key_dots.2 ⟨hkey.symm, hdots v hv w hw hkey.symm⟩⟩

/-- `"a.b"` and `a.b`, of which a set keeps only the first. -/
theorem not_same_dotted :
    let whole : Written := ⟨⟨[.quoted .double ['a', '.', 'b'] rfl], by simp⟩, none, .main⟩
    let divided : Written := ⟨⟨[.plain ['a'] rfl, .plain ['b'] rfl], by simp⟩, none, .join⟩
    whole.reference.key = divided.reference.key ∧ ¬Same whole divided ∧
      (Set.ofList [whole.reference, divided.reference]).entries = [whole.reference] := by
  intro whole divided
  refine ⟨by decide +kernel, fun hsame => ?_, by decide +kernel⟩
  exact absurd hsame.parts.length_eq (by decide)

end Written

end SqlTemplate.Table
