/-
Predicates that are merged one after another. The first one becomes WHERE if there is none, and every further one
is conjoined to what is there, with parentheses around both; however many there are, the result is worth as much
as all of them together, in whatever order they came, and its leaves are theirs in the order in which they came.
-/
import SqlTemplate.Proofs.Condition.Truth
import SqlTemplate.Proofs.Merge.Conditions
import Mathlib.Data.List.Forall2

namespace SqlTemplate

open Condition (Node Position Connective classify group)

/-! ## What predicates are worth -/

theorem Truth.and_left_comm (s t u : Truth) : s.and (t.and u) = t.and (s.and u) := by
  cases s <;> cases t <;> cases u <;> rfl

/-- The truth of a predicate, given that of all predicates that are no combination of others. -/
def Expr.worth (v : Expr → Truth) : Expr → Truth
  | .nested e => e.worth v
  | .unary .not e => (e.worth v).not
  | .binary l .and r => (l.worth v).and (r.worth v)
  | .binary l .or r => (l.worth v).or (r.worth v)
  | e => v e

/-- A predicate's truth is what it is worth if predicates are told apart by their texts only. -/
theorem Expr.truth_eq_worth (v : String → Truth) (e : Expr) : e.truth v = e.worth fun a => v a.print := by
  fun_induction Expr.truth v e <;> simp_all [Expr.worth]

/-- A WHERE clause that is absent holds everywhere. -/
def Expr.worthOption (v : Expr → Truth) : Option Expr → Truth
  | none => .yes
  | some e => e.worth v

/-- What several predicates are worth together. -/
def Expr.worthAll (v : Expr → Truth) (es : List Expr) : Truth := Connective.and.combine (es.map (Expr.worth v))

namespace Merge

/-- What WHERE becomes when predicates are merged one after another. -/
def conjoinAll (existing : Option Expr) (added : List Expr) : Option Expr :=
  added.foldl (fun e p => some (conjoin e p)) existing

variable {v : Expr → Truth} {w : Option Expr} {e p : Expr} {ps qs : List Expr}

theorem worthAll_cons : Expr.worthAll v (p :: ps) = (p.worth v).and (Expr.worthAll v ps) := rfl

theorem worthAll_perm (h : ps.Perm qs) : Expr.worthAll v ps = Expr.worthAll v qs := by
  induction h with
  | nil => rfl
  | cons e _ ih => rw [worthAll_cons, worthAll_cons, ih]
  | swap e f es => simp only [worthAll_cons, Truth.and_left_comm]
  | trans _ _ ih₁ ih₂ => exact ih₁.trans ih₂

theorem worth_parenthesize (v : Expr → Truth) (e : Expr) : (parenthesize e).worth v = e.worth v := by
  cases e <;> rfl

theorem worth_conjoin (v : Expr → Truth) (w : Option Expr) (p : Expr) :
    (conjoin w p).worth v = (Expr.worthOption v w).and (p.worth v) := by
  cases w with
  | none => rfl
  | some e =>
    show ((parenthesize e).worth v).and ((parenthesize p).worth v) = _
    rw [worth_parenthesize, worth_parenthesize]
    rfl

/-- Each step conjoins one more predicate, so all of them are conjoined in the end. -/
theorem worth_conjoinAll (v : Expr → Truth) (w : Option Expr) (ps : List Expr) :
    Expr.worthOption v (conjoinAll w ps) = Expr.worthAll v (w.toList ++ ps) := by
  induction ps generalizing w with
  | nil =>
    cases w with
    | none => rfl
    | some e => exact (Truth.and_yes _).symm
  | cons p ps ih =>
    show Expr.worthOption v (conjoinAll (some (conjoin w p)) ps) = _
    rw [ih, Option.toList_some, List.singleton_append, worthAll_cons, worth_conjoin, Truth.and_assoc]
    cases w <;> rfl

/-! ## Leaves -/

variable {q : Position} {n m : Node} {ns : List Node}

/-- Two predicates that are conjoined have the leaves of both. -/
theorem leaves_classify_conjoin (hn : classify q e = .ok n) (hm : classify q p = .ok m) :
    ∃ k, classify q (conjoin (some e) p) = .ok k ∧ k.leaves = n.leaves ++ m.leaves := by
  refine ⟨_, classify_conjoin hn hm, ?_⟩
  show n.leaves ++ (m.leaves ++ []) = _
  rw [List.append_nil]

/-- The leaves of predicates that are conjoined one after another to one that is there. -/
theorem leaves_conjoinAll {f : Expr} (hn : classify q e = .ok n)
    (hp : List.Forall₂ (fun p m => classify q p = .ok m) ps ns) (hf : conjoinAll (some e) ps = some f) :
    ∃ k, classify q f = .ok k ∧ k.leaves = n.leaves ++ ns.flatMap Node.leaves := by
  induction hp generalizing e n with
  | nil =>
    cases hf
    exact ⟨n, hn, (List.append_nil _).symm⟩
  | cons hm _ ih =>
    obtain ⟨k, hk, hleaves⟩ := leaves_classify_conjoin hn hm
    obtain ⟨l, hl, hrest⟩ := ih hk hf
    refine ⟨l, hl, ?_⟩
    rw [hrest, hleaves, List.append_assoc]
    rfl

/-! ## Runs of merges -/

/-- A statement that took predicates one after another has all of them in its WHERE clause. -/
theorem selection_addPredicates {st : Statement} (h : takesJoins st = true) (ps : List Expr) :
    selection (ps.foldl (fun s p => addPredicate p s) st) = conjoinAll (selection st) ps := by
  induction ps generalizing st with
  | nil => rfl
  | cons p ps ih =>
    rw [List.foldl_cons, ih ((takesJoins_addPredicate p st).trans h), selection_addPredicate p h]
    rfl

/-- Predicates that are merged one after another are worth the conjunction of all, whatever predicates are worth that
are no combination of others; their order does not matter for that; and if all of them can be classified, so can the
result, whose leaves are those of WHERE and then those of each predicate. -/
theorem conjoinAll_conjunction (w : Option Expr) (ps : List Expr) :
    (∀ st : Statement, takesJoins st = true → selection st = w →
      selection (ps.foldl (fun s p => addPredicate p s) st) = conjoinAll w ps) ∧
    (∀ v : Expr → Truth, Expr.worthOption v (conjoinAll w ps) = Expr.worthAll v (w.toList ++ ps)) ∧
    (∀ qs, ps.Perm qs → ∀ v : Expr → Truth, Expr.worthOption v (conjoinAll w qs) = Expr.worthOption v (conjoinAll w ps)) ∧
    (∀ (e : Expr) (q : Position) (ns : List Node), conjoinAll w ps = some e →
      List.Forall₂ (fun e n => classify q e = .ok n) (w.toList ++ ps) ns →
        ∃ n, classify q e = .ok n ∧ n.leaves = ns.flatMap Node.leaves) := by
  refine ⟨fun st htakes hw => hw ▸ selection_addPredicates htakes ps, fun v => worth_conjoinAll v w ps,
    fun qs hperm v => ?_, fun e q ns he hall => ?_⟩
  · rw [worth_conjoinAll, worth_conjoinAll]
    exact worthAll_perm (hperm.symm.append_left _)
  · cases w with
    | some f =>
      obtain ⟨n, ms, hn, hms, rfl⟩ := List.forall₂_cons_left_iff.1 hall
      exact leaves_conjoinAll hn hms he
    | none =>
      -- the first predicate becomes WHERE as it stands
      cases hall with
      | nil => cases he
      | cons hn hms => exact leaves_conjoinAll hn hms he

/-- `a` with `b OR c`, `(d)` and `NOT e`, in this order and in the opposite one. -/
theorem conjoinAll_conjunction_mixed :
    let column (name : String) : Expr := .ident ⟨name, none⟩
    let ps := [.binary (column "b") .or (column "c"), .nested (column "d"), .unary .not (column "e")]
    (∀ v : Expr → Truth, Expr.worthOption v (conjoinAll (some (column "a")) ps.reverse) =
      Expr.worthOption v (conjoinAll (some (column "a")) ps)) ∧
    ∃ (e : Expr) (n : Node) (ns : List Node), conjoinAll (some (column "a")) ps = some e ∧ classify .where_ e = .ok n ∧
      n.leaves = ns.flatMap Node.leaves ∧ n.leaves.map (·.summary.sql) = ["a", "b", "c", "d", "e"] := by
  intro column ps
  obtain ⟨-, -, horder, hleaves⟩ := conjoinAll_conjunction (some (column "a")) ps
  obtain ⟨n, hn, hns⟩ := hleaves _ .where_ _ rfl (.cons rfl (.cons rfl (.cons rfl (.cons rfl .nil))))
  refine ⟨horder ps.reverse (List.reverse_perm ps).symm, _, n, _, rfl, hn, hns, ?_⟩
  rw [hns]
  rfl

end Merge

end SqlTemplate
