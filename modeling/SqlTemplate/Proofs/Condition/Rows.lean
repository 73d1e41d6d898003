/-
Rows compared with rows. Each operand on the right of an operator stands in the place of one row: the one operand of a
comparison or a pattern test, either bound of a range, every item of a list. What is checked is their sum: a comparison
takes one row's worth of values, a range two, a list any number. So a value too many in one place can make up for one
that is missing in another; places that are all as wide as the left side are never refused, and those that are accepted
are as wide unless the bounds of a range differ from each other or the items of a list spill over.
-/
import SqlTemplate.Proofs.Condition.Atoms
import Mathlib.Algebra.Order.BigOperators.Group.List
import Mathlib.Algebra.Order.Group.Nat

namespace SqlTemplate

open Condition (Operator Position Node Arity classify)

namespace Expr

/-! ## Places -/

/-- The operands on the right of an atom's operator, each of them in the place of one row. -/
def places : Expr → List Expr
  | .binary _ _ r => [r]
  | .pattern _ _ _ _ pat _ => [pat]
  | .distinctFrom _ _ r => [r]
  | .inList _ _ items => items
  | .between _ _ low high => [low, high]
  | _ => []

/-- How many pairs of parentheses stand around an expression that is a query. -/
def queryDepth? : Expr → Option Nat
  | .subquery _ => some 0
  | .nested e => e.queryDepth?.map (· + 1)
  | _ => none

/-- Whether an operand is a query, in any number of parentheses. -/
def isQuery (e : Expr) : Bool := e.queryDepth?.isSome

/-- The values that an operand supplies in the place of a row of `width`; a query there is one full row. -/
def rowWidth (width : Nat) (e : Expr) : Nat := if e.isQuery then width else e.width

/-- Every place on the right supplies exactly one row. -/
def ComparesRows (e : Expr) : Prop := ∀ x ∈ e.places, x.rowWidth e.leftWidth = e.leftWidth

/-- The values on the right make up whole rows in sum. -/
def FitsInSum : Expr → Prop
  | .binary l _ r => Condition.suppliedValues r l.width = l.width
  | .distinctFrom l _ r => Condition.suppliedValues r l.width = l.width
  | .pattern e _ _ _ pat _ => pat.width = e.width
  | .inList e _ items => e.width = 0 ∨ e.width ∣ (items.map width).sum
  | .between e _ low high => low.width + high.width = 2 * e.width
  | _ => True

/-- The bounds of a range are equally wide; the items of a list make up as many rows as there are items, and none of
them is wider than a row. -/
def IsEven : Expr → Prop
  | .inList e _ items =>
    (items.map (rowWidth e.width)).sum = items.length * e.width ∧ ∀ x ∈ items, x.rowWidth e.width ≤ e.width
  | .between e _ low high => low.rowWidth e.width = high.rowWidth e.width
  | _ => True

theorem rowWidth_of_suppliedValues {e : Expr} {width : Nat} (h : Condition.suppliedValues e width = width) :
    e.rowWidth width = width := by
  unfold rowWidth
  split
  · rfl
  · rename_i hq
    unfold Condition.suppliedValues at h
    split at h
    · exact absurd rfl hq
    · exact absurd rfl hq
    · exact h

theorem suppliedValues_of_width {e : Expr} {width : Nat} (h : e.width = width) :
    Condition.suppliedValues e width = width := by
  unfold Condition.suppliedValues
  split
  · rfl
  · rfl
  · exact h

end Expr

namespace Condition

variable {e : Expr} {op : Operator} {p : Position}

/-! ## Sums -/

theorem arity_of_comparison? {op : BinaryOp} {o : Operator} (h : comparison? op = some o) : o.arity = .exactly 1 := by
  cases op <;> cases h <;> rfl

theorem arity_patternOperator (family : PatternFamily) (negated : Bool) :
    (patternOperator family negated).arity = .exactly 1 := by
  cases family <;> cases negated <;> rfl

theorem arity_of_testOperator? {truth : TruthTest} {negated : Bool} (h : testOperator? truth negated = some op) :
    op.arity = .exactly 0 := by
  cases truth <;> cases negated <;> cases h <;> rfl

theorem accepts_one {width found : Nat} (h : op.arity = .exactly 1) :
    op.arity.accepts width found = true ↔ found = width := by
  rw [h]
  simp [Arity.accepts]

/-- An operator accepts the values on its right if and only if these make up whole rows in sum. -/
theorem accepts_iff_fitsInSum (h : e.operator? = some op) :
    op.arity.accepts e.leftWidth e.rightValues = true ↔ e.FitsInSum := by
  cases e with
  | binary l bop r => exact accepts_one (arity_of_comparison? h)
  | pattern x negated family any pat escape =>
    cases h
    exact accepts_one (arity_patternOperator family negated)
  | distinctFrom l negated r =>
    cases h
    cases negated <;> exact accepts_one rfl
  | inList x negated items =>
    cases h
    cases negated <;> simp [Operator.arity, Arity.accepts, Expr.FitsInSum, Expr.leftWidth, Expr.rightValues, Nat.dvd_iff_mod_eq_zero]
  | inSubquery x negated q =>
    cases h
    cases negated <;> simp [Operator.arity, Arity.accepts, Expr.FitsInSum, Expr.leftWidth, Expr.rightValues]
  | between x negated low high =>
    cases h
    cases negated <;> simp [Operator.arity, Arity.accepts, Expr.FitsInSum, Expr.leftWidth, Expr.rightValues]
  | test x negated truth =>
    rw [arity_of_testOperator? h]
    simp [Arity.accepts, Expr.FitsInSum, Expr.rightValues]
  | exists_ negated q =>
    cases h
    cases negated <;> simp [Operator.arity, Arity.accepts, Expr.FitsInSum, Expr.rightValues]
  | ident | compound =>
    cases h
    simp [Operator.arity, Arity.accepts, Expr.FitsInSum, Expr.rightValues]
  | _ => cases h

/-! ## Places -/

theorem sum_map_const_iff {α : Type} {f : α → Nat} {w : Nat} {xs : List α} (hle : ∀ x ∈ xs, f x ≤ w) :
    (xs.map f).sum = xs.length * w ↔ ∀ x ∈ xs, f x = w := by
  induction xs with
  | nil => simp
  | cons x xs ih =>
    obtain ⟨hx, hxs⟩ := List.forall_mem_cons.1 hle
    have hrest : (xs.map f).sum ≤ (xs.map f).length * w := List.sum_le_card_nsmul _ _ (List.forall_mem_map.2 hxs)
    rw [List.length_map] at hrest
    -- no part exceeds its share, so the whole is full only if every part is
    rw [List.map_cons, List.sum_cons, List.length_cons, Nat.succ_mul, List.forall_mem_cons, ← ih hxs]
    omega

/-- Values that make up whole rows in sum stand row by row if and only if they are spread evenly. -/
theorem comparesRows_iff_isEven (hop : e.operator? = some op) (h : e.FitsInSum) : e.ComparesRows ↔ e.IsEven := by
  cases e with
  | binary l bop r | distinctFrom l negated r =>
    exact iff_of_true (List.forall_mem_singleton.2 (Expr.rowWidth_of_suppliedValues h)) trivial
  | pattern x negated family any pat escape =>
    refine iff_of_true (List.forall_mem_singleton.2 ?_) trivial
    exact Expr.rowWidth_of_suppliedValues (Expr.suppliedValues_of_width h)
  | inList x negated items =>
    constructor
    · intro hrows
      have hle : ∀ i ∈ items, i.rowWidth x.width ≤ x.width := fun i hi => Nat.le_of_eq (hrows i hi)
      exact ⟨(sum_map_const_iff hle).2 hrows, hle⟩
    · rintro ⟨hsum, hle⟩
      exact (sum_map_const_iff hle).1 hsum
  | between x negated low high =>
    have hsum : low.width + high.width = 2 * x.width := h
    constructor
    · intro hrows
      exact (hrows low List.mem_cons_self).trans (hrows high (List.mem_cons_of_mem _ List.mem_cons_self)).symm
    · intro heven
      have heven : low.rowWidth x.width = high.rowWidth x.width := heven
      have hhigh : high.rowWidth x.width = x.width := by
        unfold Expr.rowWidth at heven ⊢
        -- a query on either side is a full row already; two rows that are none share what two rows hold
        split at heven <;> split at heven <;> split <;> first | rfl | omega
      exact List.forall_mem_cons.2 ⟨heven.trans hhigh, List.forall_mem_singleton.2 hhigh⟩
  | _ => exact iff_of_true (List.forall_mem_nil _) trivial

/-- Places that are all as wide as the left side make up whole rows in sum. -/
theorem fitsInSum_of_width (h : ∀ x ∈ e.places, x.width = e.leftWidth) : e.FitsInSum := by
  cases e with
  | binary l bop r | distinctFrom l negated r => exact Expr.suppliedValues_of_width (h r List.mem_cons_self)
  | pattern x negated family any pat escape => exact h pat List.mem_cons_self
  | inList x negated items =>
    have hsum : (items.map Expr.width).sum = items.length * x.width :=
      (sum_map_const_iff fun i hi => Nat.le_of_eq (h i hi)).2 h
    exact .inr (hsum ▸ Dvd.intro_left _ rfl)
  | between x negated low high =>
    have hlow : low.width = x.width := h low List.mem_cons_self
    have hhigh : high.width = x.width := h high (List.mem_cons_of_mem _ List.mem_cons_self)
    show low.width + high.width = 2 * x.width
    omega
  | _ => trivial

/-- An atom with an operator is accepted if and only if the values on its right make up whole rows in sum, and otherwise
refused for their number. Places that are all as wide as the left side are accepted; what is accepted compares rows with
rows if and only if the values are spread evenly. -/
theorem compares_rows (p : Position) (he : e.isAtom = true) (hop : e.operator? = some op) :
    ((∃ n, classify p e = .ok n) ↔ e.FitsInSum) ∧
    (¬e.FitsInSum → classify p e = .error (.arity op (op.arity.describe e.leftWidth) e.rightValues)) ∧
    ((∀ x ∈ e.places, x.width = e.leftWidth) → e.FitsInSum) ∧ (e.FitsInSum → (e.ComparesRows ↔ e.IsEven)) := by
  have haccepts := accepts_iff_fitsInSum hop
  refine ⟨?_, fun hsum => ?_, fitsInSum_of_width, comparesRows_iff_isEven hop⟩
  · rw [← haccepts]
    constructor
    · rintro ⟨n, hn⟩
      obtain ⟨op', hop', hfits, -⟩ := (classify_atom_eq_ok he).1 hn
      cases hop.symm.trans hop'
      exact hfits
    · exact fun hfits => ⟨_, (classify_atom_eq_ok he).2 ⟨op, hop, hfits, rfl⟩⟩
  · have hfits : op.arity.accepts e.leftWidth e.rightValues = false := by
      rw [← haccepts, Bool.not_eq_true] at hsum
      exact hsum
    exact (classify_atom_eq_error he).2 (.inr ⟨op, hop, hfits, rfl⟩)

/-- `(a, b) IN ((1, 2), (3, 4))` is accepted, and row by row. -/
theorem compares_rows_listed :
    let column (name : String) : Expr := .ident ⟨name, none⟩
    let number (text : String) : Expr := .value (.number text false)
    let e := Expr.inList (.tuple [column "a", column "b"]) false
      [.tuple [number "1", number "2"], .tuple [number "3", number "4"]]
    (∃ n, classify .where_ e = .ok n) ∧ e.ComparesRows := by
  intro column number e
  obtain ⟨haccepted, -, hwide, heven⟩ := compares_rows (e := e) .where_ rfl rfl
  have hsum : e.FitsInSum := hwide (by decide)
  exact ⟨haccepted.2 hsum, (heven hsum).2 ⟨rfl, by decide⟩⟩

/-- `(a, b) IN ((1, 2, 3), 4)` is accepted: the four values are two rows in sum. -/
theorem not_compares_rows_spilled :
    let column (name : String) : Expr := .ident ⟨name, none⟩
    let number (text : String) : Expr := .value (.number text false)
    let e := Expr.inList (.tuple [column "a", column "b"]) false
      [.tuple [number "1", number "2", number "3"], number "4"]
    (∃ n, classify .where_ e = .ok n) ∧ ¬e.ComparesRows := by
  intro column number e
  refine ⟨⟨_, (classify_atom_eq_ok rfl).2 ⟨.in_, rfl, by decide, rfl⟩⟩, fun hrows => ?_⟩
  exact absurd (hrows (number "4") (List.mem_cons_of_mem _ List.mem_cons_self)) (by decide)

end Condition

end SqlTemplate
