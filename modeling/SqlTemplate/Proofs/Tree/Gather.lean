/-
Lists gathered from the parts of a tree, one part after the other, where the first part that fails makes the
whole fail. Every analysis of a statement is put together in this way.
-/
import SqlTemplate.Proofs.Template.Read

namespace SqlTemplate

variable {α : Type} {x y z w : Except Error (List α)} {as : List α}

/-- What one part yields, then what the next one yields. -/
def gather (x y : Except Error (List α)) : Except Error (List α) := do return (← x) ++ (← y)

@[simp] theorem gather_ok (xs ys : List α) : gather (.ok xs) (.ok ys) = .ok (xs ++ ys) := rfl

theorem gather_three : (do return (← x) ++ (← y) ++ (← z)) = gather (gather x y) z := by
  cases x with
  | error _ => rfl
  | ok xs => cases y <;> rfl

theorem gather_four : (do return (← x) ++ (← y) ++ (← z) ++ (← w)) = gather (gather (gather x y) z) w := by
  cases x with
  | error _ => rfl
  | ok xs =>
    cases y with
    | error _ => rfl
    | ok ys => cases z <;> rfl

theorem gather_eq_ok : gather x y = .ok as ↔ ∃ xs ys, x = .ok xs ∧ y = .ok ys ∧ as = xs ++ ys := by
  constructor
  · intro h
    obtain ⟨xs, hx, h⟩ := bind_eq_ok.1 h
    obtain ⟨ys, hy, h⟩ := bind_eq_ok.1 h
    cases h
    exact ⟨xs, ys, hx, hy, rfl⟩
  · rintro ⟨xs, ys, rfl, rfl, rfl⟩
    rfl

theorem gather_eq_error {e : Error} : gather x y = .error e ↔ x = .error e ∨ ∃ xs, x = .ok xs ∧ y = .error e := by
  constructor
  · intro h
    cases x with
    | error _ => exact .inl h
    | ok xs =>
      cases y with
      | error _ => exact .inr ⟨xs, rfl, h⟩
      | ok ys => cases h
  · rintro (rfl | ⟨xs, rfl, rfl⟩)
    · rfl
    · rfl

theorem gather_assoc (x y z : Except Error (List α)) : gather (gather x y) z = gather x (gather y z) := by
  cases x with
  | error _ => rfl
  | ok xs =>
    cases y with
    | error _ => rfl
    | ok ys =>
      cases z with
      | error _ => rfl
      | ok zs => exact congrArg Except.ok (List.append_assoc xs ys zs)

@[simp] theorem gather_nil (x : Except Error (List α)) : gather x (.ok []) = x := by
  cases x with
  | error _ => rfl
  | ok xs => exact congrArg Except.ok (List.append_nil xs)

@[simp] theorem nil_gather (x : Except Error (List α)) : gather (.ok []) x = x := by
  cases x <;> rfl

/-- What holds of the list, if there is one. -/
def Yields (x : Except Error (List α)) (P : List α → Prop) : Prop := ∀ as, x = .ok as → P as

theorem yields_ok {P : List α → Prop} (h : P as) : Yields (.ok as) P := by
  rintro _ ⟨⟩
  exact h

theorem yields_error {e : Error} {P : List α → Prop} : Yields (.error e) P := fun _ h => nomatch h

/-- The parts decide about the whole, if what is claimed of it follows from what is claimed of them. -/
theorem Yields.gather {P Q R : List α → Prop} (hx : Yields x P) (hy : Yields y Q)
    (h : ∀ xs ys, P xs → Q ys → R (xs ++ ys)) : Yields (gather x y) R := by
  intro as has
  obtain ⟨xs, ys, hxs, hys, rfl⟩ := gather_eq_ok.1 has
  exact h xs ys (hx xs hxs) (hy ys hys)

end SqlTemplate
