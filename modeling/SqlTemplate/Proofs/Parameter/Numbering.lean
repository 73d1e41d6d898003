/-
The parameters of a token stream as its markers, numbered and named: one for each marker, in order and with the numbers
from one on. A question mark has the name of the origin of its rank if there are as many origins as question marks, and
else none; any other marker has the name that it is written with, if it is a colon with a name.
-/
import SqlTemplate.Proofs.Template.Agreement
import Mathlib.Data.List.Range

namespace SqlTemplate.Parameter

open Template (Origin)

variable {p : Parameter} {ps : List Parameter} {ms : List Marker} {origins : List Origin} {i n : Nat}

/-! ## Numbers -/

/-- The marker that a parameter was made of. -/
def toMarker (p : Parameter) : Marker := ⟨p.marker, p.location⟩

theorem map_toMarker_number (i : Nat) (origins : List Origin) (ms : List Marker) :
    (number i origins ms).map toMarker = ms := by
  induction ms generalizing i origins with
  | nil => rfl
  | cons m ms ih =>
    unfold number
    split
    · rw [List.map_cons, ih]; rfl
    · rw [List.map_cons, ih]; rfl

theorem map_index_number (i : Nat) (origins : List Origin) (ms : List Marker) :
    (number i origins ms).map Parameter.index = List.range' i ms.length := by
  induction ms generalizing i origins with
  | nil => rfl
  | cons m ms ih =>
    unfold number
    split
    · rw [List.map_cons, ih, List.length_cons, List.range'_succ]
    · rw [List.map_cons, ih, List.length_cons, List.range'_succ]

/-- Among parameters that are numbered from one on, the place of each follows from its number. -/
theorem index_getElem (h : ps.map Parameter.index = List.range' 1 n) {k : Nat} (hk : k < ps.length) :
    ps[k].index = k + 1 := by
  have hmap : k < (ps.map Parameter.index).length := by rwa [List.length_map]
  have hget : (ps.map Parameter.index)[k] = ps[k].index := List.getElem_map _
  simp only [h, List.getElem_range'] at hget
  omega

theorem get?_eq_some_iff (h : ps.map Parameter.index = List.range' 1 n) : get? ps i = some p ↔ p ∈ ps ∧ p.index = i := by
  unfold get?
  constructor
  · intro hp
    split at hp
    · cases hp
    · obtain ⟨hk, rfl⟩ := List.getElem?_eq_some_iff.1 hp
      refine ⟨List.getElem_mem hk, ?_⟩
      rw [index_getElem h hk]
      omega
  · rintro ⟨hm, rfl⟩
    obtain ⟨k, hk, rfl⟩ := List.getElem_of_mem hm
    rw [index_getElem h hk, if_neg (Nat.succ_ne_zero k), Nat.add_sub_cancel, List.getElem?_eq_getElem hk]

theorem isSome_get? (ps : List Parameter) (i : Nat) : (get? ps i).isSome = true ↔ 1 ≤ i ∧ i ≤ ps.length := by
  unfold get?
  split
  · simp; omega
  · simp; omega

/-! ## The set of parameters -/

theorem insertByIndex_of_forall_lt (h : ∀ q ∈ ps, q.index < p.index) : insertByIndex p ps = ps ++ [p] := by
  induction ps with
  | nil => rfl
  | cons q ps ih =>
    have hq := h q List.mem_cons_self
    rw [insertByIndex, if_neg (by omega), if_neg (by omega), ih fun r hr => h r (List.mem_cons_of_mem _ hr), List.cons_append]

/-- Parameters that come by rising numbers are each put at the end. -/
theorem foldl_insertByIndex {qs : List Parameter} (h : (qs ++ ps).Pairwise (·.index < ·.index)) :
    ps.foldl (fun s p => insertByIndex p s) qs = qs ++ ps := by
  induction ps generalizing qs with
  | nil => rw [List.append_nil]; rfl
  | cons p ps ih =>
    have hlast : ∀ q ∈ qs, q.index < p.index := fun q hq => (List.pairwise_append.1 h).2.2 q hq p List.mem_cons_self
    rw [List.foldl_cons, insertByIndex_of_forall_lt hlast, ih (by simpa using h), List.append_assoc, List.singleton_append]

theorem asSet_eq_self (h : ps.map Parameter.index = List.range' 1 n) : asSet ps = ps := by
  have hlt : (ps.map Parameter.index).Pairwise (· < ·) := h ▸ List.pairwise_lt_range'
  exact foldl_insertByIndex (List.pairwise_map.1 hlt)

/-! ## Names -/

/-- A parameter that is no question mark is named after its own text. -/
theorem name_of_mem_number (hp : p ∈ number i origins ms) (hq : p.isQuestion = false) : p.name = p.toMarker.ownName? := by
  induction ms generalizing i origins with
  | nil => cases hp
  | cons m ms ih =>
    unfold number at hp
    split at hp
    · rename_i hm
      rcases List.mem_cons.1 hp with rfl | hp
      · rw [isQuestion] at hq
        exact absurd hm (by simp [Marker.isQuestion, hq])
      · exact ih hp
    · rcases List.mem_cons.1 hp with rfl | hp
      · rfl
      · exact ih hp

/-- Without origins no question mark has a name. -/
theorem name_of_mem_number_nil (hp : p ∈ number i [] ms) (hq : p.isQuestion = true) : p.name = none := by
  induction ms generalizing i with
  | nil => cases hp
  | cons m ms ih =>
    unfold number at hp
    split at hp
    · rcases List.mem_cons.1 hp with rfl | hp
      · rfl
      · exact ih hp
    · rename_i hm
      rcases List.mem_cons.1 hp with rfl | hp
      · exact absurd hq hm
      · exact ih hp

theorem Marker.ownName?_colon {m : Marker} {x : String} (h : m.text = ":" ++ x) : m.ownName? = some x := by
  simp [ownName?, h]

theorem Marker.ownName?_of_not_colon {m : Marker} (h : Text.startsWith m.text ":" = false) : m.ownName? = none := by
  unfold ownName?
  split
  · rename_i name hm
    simp [Text.startsWith, hm] at h
  · rfl

/-! ## Parameters of a stream -/

/-- `ps` are the markers of the stream, one by one, and their numbers are those from one to the count of markers. -/
structure Numbered (tokens : List Lexeme) (ps : List Parameter) : Prop where
  markers : ps.map toMarker = markers tokens
  indices : ps.map Parameter.index = List.range' 1 (count tokens)
  get : ∀ i p, get? ps i = some p ↔ p ∈ ps ∧ p.index = i
  found : ∀ i, (get? ps i).isSome = true ↔ 1 ≤ i ∧ i ≤ count tokens
  set : (asSet ps).length = count tokens

/-- `ps` are named after the origins of the question marks among them, and after themselves. -/
structure Named (origins : List Origin) (ps : List Parameter) : Prop where
  aligned : ps.countP isQuestion = origins.length → (ps.filter isQuestion).map Parameter.name = origins.map Origin.name?
  unaligned : ps.countP isQuestion ≠ origins.length → ∀ p ∈ ps, p.isQuestion = true → p.name = none
  colon : ∀ p ∈ ps, ∀ x, p.marker = ":" ++ x → p.name = some x
  other : ∀ p ∈ ps, p.isQuestion = false → Text.startsWith p.marker ":" = false → p.name = none

/-- Numbers do not depend on the origins. -/
theorem numbered_number (tokens : List Lexeme) (origins : List Origin) :
    Numbered tokens (number 1 origins (markers tokens)) := by
  have hmarkers := map_toMarker_number 1 origins (markers tokens)
  have hindices := map_index_number 1 origins (markers tokens)
  have hlength : (number 1 origins (markers tokens)).length = count tokens := by
    rw [count, ← congrArg List.length hmarkers, List.length_map]
  refine ⟨hmarkers, hindices, fun i p => get?_eq_some_iff hindices, fun i => ?_, ?_⟩
  · rw [isSome_get?, hlength]
  · rw [asSet_eq_self hindices, hlength]

theorem countP_number (i : Nat) (origins : List Origin) (ms : List Marker) :
    (number i origins ms).countP isQuestion = ms.countP Marker.isQuestion := by
  have h := congrArg (List.countP Marker.isQuestion) (map_toMarker_number i origins ms)
  rw [List.countP_map] at h
  exact h

/-- The parameters of a token stream are its markers, numbered from one on and named after their origins or themselves. -/
theorem resolve_numbered_named (tokens : List Lexeme) (origins : List Origin) :
    Numbered tokens (resolve tokens origins) ∧ Named origins (resolve tokens origins) := by
  refine ⟨numbered_number tokens _, ?_, ?_, ?_, ?_⟩ <;> rw [resolve]
  · intro h
    rw [countP_number] at h
    rw [if_pos (beq_iff_eq.2 h)]
    have hpairs := congrArg (List.map Prod.snd) (Template.number_questions 1 origins (markers tokens) h)
    rw [List.map_map, List.map_snd_zip] at hpairs
    · exact hpairs
    · simp [← h, List.countP_eq_length_filter]
  · intro h p hp hq
    rw [countP_number] at h
    rw [if_neg (by simpa using h)] at hp
    exact name_of_mem_number_nil hp hq
  · intro p hp x hx
    have hq : p.isQuestion = false := by simp [isQuestion, hx, Text.startsWith, List.isPrefixOf]
    rw [name_of_mem_number hp hq]
    exact Marker.ownName?_colon hx
  · intro p hp hq hc
    rw [name_of_mem_number hp hq]
    exact Marker.ownName?_of_not_colon hc

end SqlTemplate.Parameter
