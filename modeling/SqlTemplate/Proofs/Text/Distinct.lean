/-
Lists without their repetitions. Repetitions may be dropped in stages: from the parts of a list first, and then from
the whole; and before something is made of each element as well as after it.
-/
import SqlTemplate.Text.Chars
import Mathlib.Data.List.Basic

namespace SqlTemplate.Text

variable {α : Type} [BEq α]

/-- One more element in front of those that were seen, unless it is among them. -/
def record (seen : List α) (x : α) : List α := if seen.contains x then seen else x :: seen

theorem distinct_eq (xs : List α) : distinct xs = (xs.foldl record []).reverse := rfl

/-- Each element is kept where it first occurs. -/
theorem distinct_eq_eraseDups (xs : List α) : distinct xs = xs.eraseDups := by
  have hloop (seen : List α) : (xs.foldl record seen).reverse = List.eraseDupsBy.loop (· == ·) xs seen := by
    induction xs generalizing seen with
    | nil => rfl
    | cons x xs ih =>
      rw [List.foldl_cons, ih, List.eraseDupsBy.loop, ← List.contains_eq_any_beq, record]
      cases seen.contains x <;> rfl
  exact hloop []

variable [LawfulBEq α] {seen xs ys : List α} {x y : α}

theorem record_of_mem (h : x ∈ seen) : record seen x = seen := if_pos (List.contains_iff_mem.2 h)

theorem record_of_not_mem (h : x ∉ seen) : record seen x = x :: seen := if_neg (mt List.contains_iff_mem.1 h)

theorem mem_record : y ∈ record seen x ↔ y ∈ seen ∨ y = x := by
  by_cases hx : x ∈ seen
  · rw [record_of_mem hx]
    exact ⟨.inl, fun h => h.elim id fun heq => heq ▸ hx⟩
  · rw [record_of_not_mem hx, List.mem_cons, or_comm]

theorem mem_foldl_record : y ∈ xs.foldl record seen ↔ y ∈ seen ∨ y ∈ xs := by
  induction xs generalizing seen with
  | nil => simp
  | cons x xs ih => rw [List.foldl_cons, ih, mem_record, List.mem_cons, or_assoc]

/-- It makes no difference whether elements were recorded before what `f` makes of them is recorded. -/
theorem foldl_record_map_reverse {β : Type} [BEq β] [LawfulBEq β] (f : α → β) (seen : List β) (ts xs : List α) :
    ((xs.foldl record ts).reverse.map f).foldl record seen =
      (xs.map f).foldl record ((ts.reverse.map f).foldl record seen) := by
  induction xs generalizing ts with
  | nil => rfl
  | cons x xs ih =>
    -- recording `x` before the reversal or after it comes to the same
    have hstep : ((record ts x).reverse.map f).foldl record seen = record ((ts.reverse.map f).foldl record seen) (f x) := by
      by_cases hx : x ∈ ts
      · rw [record_of_mem hx, record_of_mem (mem_foldl_record.2 (.inr (List.mem_map_of_mem (List.mem_reverse.2 hx))))]
      · rw [record_of_not_mem hx, List.reverse_cons, List.map_append, List.foldl_append]
        rfl
    rw [List.foldl_cons, ih, hstep, List.map_cons, List.foldl_cons]

theorem foldl_record_map_distinct {β : Type} [BEq β] [LawfulBEq β] (f : α → β) (seen : List β) (xs : List α) :
    ((distinct xs).map f).foldl record seen = (xs.map f).foldl record seen := foldl_record_map_reverse f seen [] xs

theorem foldl_record_distinct (seen xs : List α) : (distinct xs).foldl record seen = xs.foldl record seen := by
  have h := foldl_record_map_distinct id seen xs
  rwa [List.map_id, List.map_id] at h

theorem distinct_distinct (xs : List α) : distinct (distinct xs) = distinct xs :=
  congrArg List.reverse (foldl_record_distinct [] xs)

/-- Repetitions dropped from two parts and then from both together are dropped from the whole. -/
theorem distinct_append_distinct (xs ys : List α) : distinct (distinct xs ++ distinct ys) = distinct (xs ++ ys) := by
  simp only [distinct_eq (_ ++ _), List.foldl_append, foldl_record_distinct]

/-- What is made of the elements of several lists is listed as if the lists had kept their repetitions. -/
theorem distinct_append_flatMap {β γ : Type} [BEq β] [LawfulBEq β] (f : α → β) (g : γ → List α) (ys : List β) (cs : List γ) :
    distinct (ys ++ cs.flatMap fun c => (distinct (g c)).map f) = distinct (ys ++ cs.flatMap fun c => (g c).map f) := by
  have hfold (seen : List β) : (cs.flatMap fun c => (distinct (g c)).map f).foldl record seen =
      (cs.flatMap fun c => (g c).map f).foldl record seen := by
    induction cs generalizing seen with
    | nil => rfl
    | cons c cs ih =>
      rw [List.flatMap_cons, List.flatMap_cons, List.foldl_append, List.foldl_append, foldl_record_map_distinct, ih]
  rw [distinct_eq, distinct_eq, List.foldl_append, List.foldl_append, hfold]

end SqlTemplate.Text
