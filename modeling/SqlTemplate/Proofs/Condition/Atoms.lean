/-
The atoms of a predicate: what AND, OR, NOT and parentheses combine. A predicate is classified if and only if each of
its atoms is, and the atoms are then the leaves of its tree, from left to right; otherwise the first atom that is no
condition says why.
-/
import SqlTemplate.Proofs.Condition.Truth
import Mathlib.Algebra.GroupWithZero.Nat
import Mathlib.Data.List.Forall2

namespace SqlTemplate

open Condition (Operator Position Node)

/-! ## One after the other -/

section MapM

variable {ε α β : Type} {f : α → Except ε β} {xs : List α} {ys : List β}

theorem mapM_eq_ok : xs.mapM f = .ok ys ↔ List.Forall₂ (fun x y => f x = .ok y) xs ys := by
  induction xs generalizing ys with
  | nil =>
    rw [List.mapM_nil, List.forall₂_nil_left_iff]
    exact ⟨fun h => (Except.ok.inj h).symm, fun h => congrArg Except.ok h.symm⟩
  | cons x xs ih =>
    rw [List.mapM_cons, bind_eq_ok, List.forall₂_cons_left_iff]
    simp only [bind_eq_ok, ih]
    constructor
    · rintro ⟨y, hy, ys', hys, heq⟩
      exact ⟨y, ys', hy, hys, (Except.ok.inj heq).symm⟩
    · rintro ⟨y, ys', hy, hys, rfl⟩
      exact ⟨y, hy, ys', hys, rfl⟩

/-- The first failure is that of the whole. -/
theorem mapM_eq_error {err : ε} :
    xs.mapM f = .error err ↔
      ∃ before x after, xs = before ++ x :: after ∧ (∀ b ∈ before, ∃ y, f b = .ok y) ∧ f x = .error err := by
  induction xs with
  | nil =>
    refine ⟨fun h => (nomatch h), ?_⟩
    rintro ⟨before, x, after, heq, -⟩
    cases before <;> cases heq
  | cons x xs ih =>
    rw [List.mapM_cons, bind_eq_error]
    simp only [bind_eq_error, ih]
    constructor
    · rintro (hx | ⟨y, hy, ⟨before, z, after, rfl, hbefore, hz⟩ | ⟨_, -, h⟩⟩)
      · exact ⟨[], x, xs, rfl, List.forall_mem_nil _, hx⟩
      · exact ⟨x :: before, z, after, rfl, List.forall_mem_cons.2 ⟨⟨y, hy⟩, hbefore⟩, hz⟩
      · cases h
    · rintro ⟨before, z, after, heq, hbefore, hz⟩
      cases before with
      | nil =>
        cases heq
        exact .inl hz
      | cons b before =>
        cases heq
        obtain ⟨⟨y, hy⟩, hrest⟩ := List.forall_mem_cons.1 hbefore
        exact .inr ⟨y, hy, .inl ⟨before, z, after, rfl, hrest, hz⟩⟩

theorem exists_of_forall₂ (h : List.Forall₂ (fun x y => f x = .ok y) xs ys) : ∀ x ∈ xs, ∃ y, f x = .ok y := by
  induction h with
  | nil => exact List.forall_mem_nil _
  | cons hx _ ih => exact List.forall_mem_cons.2 ⟨⟨_, hx⟩, ih⟩

end MapM

namespace Expr

/-! ## Atoms -/

/-- The maximal parts of a predicate that AND, OR, NOT and parentheses alone lead to, from left to right. -/
def atoms : Expr → List Expr
  | .nested e => e.atoms
  | .unary .not e => e.atoms
  | .binary l .and r => l.atoms ++ r.atoms
  | .binary l .or r => l.atoms ++ r.atoms
  | e => [e]

def isAtom : Expr → Bool
  | .nested _ => false
  | .unary .not _ => false
  | .binary _ .and _ => false
  | .binary _ .or _ => false
  | _ => true

/-- The operator that an atom has as a condition, if it is one. -/
def operator? : Expr → Option Operator
  | .binary _ op _ => Condition.comparison? op
  | .pattern _ negated family _ _ _ => some (Condition.patternOperator family negated)
  | .distinctFrom _ negated _ => some (if negated then .isNotDistinctFrom else .isDistinctFrom)
  | .inList _ negated _ => some (if negated then .notIn else .in_)
  | .inSubquery _ negated _ => some (if negated then .notIn else .in_)
  | .between _ negated _ _ => some (if negated then .notBetween else .between)
  | .test _ negated truth => Condition.testOperator? truth negated
  | .ident _ => some .isTrue
  | .compound _ => some .isTrue
  | .exists_ negated _ => some (if negated then .notExists else .exists_)
  | _ => none

/-- The width of the row on the left of an atom's operator; a column alone and EXISTS are of width one. -/
def leftWidth : Expr → Nat
  | .binary l _ _ => l.width
  | .pattern e _ _ _ _ _ => e.width
  | .distinctFrom l _ _ => l.width
  | .inList e _ _ => e.width
  | .inSubquery e _ _ => e.width
  | .between e _ _ _ => e.width
  | .test e _ _ => e.width
  | _ => 1

/-- How many values stand on the right of an atom's operator; a query there supplies one full row. -/
def rightValues : Expr → Nat
  | .binary l _ r => Condition.suppliedValues r l.width
  | .pattern _ _ _ _ pat _ => pat.width
  | .distinctFrom l _ r => Condition.suppliedValues r l.width
  | .inList _ _ items => (items.map width).sum
  | .inSubquery e _ _ => e.width
  | .between _ _ low high => low.width + high.width
  | _ => 0

end Expr

namespace Expr

open Condition (connective? Connective)

theorem isAtom_binary {l r : Expr} {op : BinaryOp} : (Expr.binary l op r).isAtom = (connective? op).isNone := by
  cases op <;> rfl

/-- Induction over what AND, OR, NOT and parentheses combine. -/
theorem predicateInduction {motive : Expr → Prop} (atom : ∀ e : Expr, e.isAtom = true → motive e)
    (nested : ∀ e, motive e → motive (.nested e)) (not : ∀ e, motive e → motive (.unary .not e))
    (chain : ∀ l op r c, connective? op = some c → motive l → motive r → motive (.binary l op r)) (e : Expr) :
    motive e := by
  cases e with
  | nested e => exact nested e (predicateInduction atom nested not chain e)
  | unary op e =>
    cases op with
    | not => exact not e (predicateInduction atom nested not chain e)
    | _ => exact atom _ rfl
  | binary l op r =>
    cases hc : connective? op with
    | some c =>
      exact chain l op r c hc (predicateInduction atom nested not chain l) (predicateInduction atom nested not chain r)
    | none => exact atom _ (by rw [isAtom_binary, hc]; rfl)
  | _ => exact atom _ rfl

theorem atoms_chain {l r : Expr} {op : BinaryOp} {c : Connective} (hc : connective? op = some c) :
    (Expr.binary l op r).atoms = l.atoms ++ r.atoms := by
  rcases Condition.eq_of_connective? hc with ⟨rfl, -⟩ | ⟨rfl, -⟩ <;> rfl

theorem atoms_of_isAtom {e : Expr} (h : e.isAtom = true) : e.atoms = [e] := by
  cases e with
  | nested e => cases h
  | unary op e => cases op <;> first | rfl | cases h
  | binary l op r => cases op <;> first | rfl | cases h
  | _ => rfl

/-- No atom is combined of others. -/
theorem isAtom_of_mem_atoms (e : Expr) : ∀ a ∈ e.atoms, a.isAtom = true := by
  induction e using predicateInduction with
  | atom e h =>
    rw [atoms_of_isAtom h]
    exact List.forall_mem_singleton.2 h
  | nested e ih => exact ih
  | not e ih => exact ih
  | chain l op r c hc ihl ihr =>
    rw [atoms_chain hc]
    exact List.forall_mem_append.2 ⟨ihl, ihr⟩

end Expr

namespace Condition

variable {p : Position} {e : Expr} {n : Node}

/-- An atom is a leaf, if it has an operator and its values fit it. -/
theorem classify_atom (h : e.isAtom = true) :
    classify p e =
      match e.operator? with
      | some op => leaf e p op e.leftWidth e.rightValues
      | none => .error (unsupported e) := by
  cases e with
  | nested e => cases h
  | unary op e => cases op <;> first | rfl | cases h
  | binary l op r => cases op <;> first | rfl | cases h
  | test e negated truth => cases truth <;> cases negated <;> rfl
  | _ => rfl

/-- How an atom fails: it has no operator, or not the number of values that its operator takes. -/
def FailsWith (a : Expr) (err : Error) : Prop :=
  (a.operator? = none ∧ err = unsupported a) ∨
    ∃ op, a.operator? = some op ∧ op.arity.accepts a.leftWidth a.rightValues = false ∧
      err = .arity op (op.arity.describe a.leftWidth) a.rightValues

theorem leaf_eq_ok {op : Operator} {width found : Nat} :
    leaf e p op width found = .ok n ↔
      op.arity.accepts width found = true ∧
        n = .leaf op ⟨p, e.distinctColumns, found, e.placeholderCount, e.print⟩ := by
  unfold leaf Operator.check
  cases op.arity.accepts width found with
  | true => exact ⟨fun h => ⟨rfl, (Except.ok.inj h).symm⟩, fun h => congrArg Except.ok h.2.symm⟩
  | false => exact ⟨fun h => (nomatch h), fun h => (nomatch h.1)⟩

theorem leaf_eq_error {op : Operator} {width found : Nat} {err : Error} :
    leaf e p op width found = .error err ↔
      op.arity.accepts width found = false ∧ err = .arity op (op.arity.describe width) found := by
  unfold leaf Operator.check
  cases op.arity.accepts width found with
  | true => exact ⟨fun h => (nomatch h), fun h => (nomatch h.1)⟩
  | false => exact ⟨fun h => ⟨rfl, (Except.error.inj h).symm⟩, fun h => congrArg Except.error h.2.symm⟩

theorem classify_atom_eq_ok (h : e.isAtom = true) :
    classify p e = .ok n ↔ ∃ op, e.operator? = some op ∧ op.arity.accepts e.leftWidth e.rightValues = true ∧
      n = .leaf op ⟨p, e.distinctColumns, e.rightValues, e.placeholderCount, e.print⟩ := by
  rw [classify_atom h]
  cases e.operator? with
  | none => exact ⟨fun h => (nomatch h), fun ⟨_, h, _⟩ => (nomatch h)⟩
  | some op =>
    simp only [leaf_eq_ok, Option.some.injEq, exists_eq_left']

theorem classify_atom_eq_error {err : Error} (h : e.isAtom = true) : classify p e = .error err ↔ FailsWith e err := by
  rw [classify_atom h, FailsWith]
  cases e.operator? with
  | none =>
    refine ⟨fun herr => .inl ⟨rfl, (Except.error.inj herr).symm⟩, ?_⟩
    rintro (⟨-, rfl⟩ | ⟨_, hnone, -⟩)
    · rfl
    · cases hnone
  | some op => simp [leaf_eq_error]

/-! ## Leaves -/

theorem leavesList_append (ms ns : List Node) :
    Node.leavesList (ms ++ ns) = Node.leavesList ms ++ Node.leavesList ns := by
  induction ms with
  | nil => rfl
  | cons m ms ih =>
    show m.leaves ++ Node.leavesList (ms ++ ns) = _
    rw [ih, ← List.append_assoc]
    rfl

theorem leaves_group {c : Connective} {ns : List Node} (h : ns ≠ []) :
    (group e p c ns).leaves = Node.leavesList ns := by
  cases ns with
  | nil => exact absurd rfl h
  | cons n ns => rfl

section Chain

variable {l r : Expr} {op : BinaryOp} {c : Connective}

theorem spread_ne_nil (hc : connective? op = some c) (h : classify p e = .ok n) : spread op e n ≠ [] := by
  induction e using Expr.predicateInduction generalizing n with
  | atom e he =>
    rw [spread_eq_singleton fun l r heq => by rw [heq, Expr.isAtom_binary, hc] at he; cases he]
    exact List.cons_ne_nil _ _
  | nested e ih => exact List.cons_ne_nil _ _
  | not e ih => exact List.cons_ne_nil _ _
  | chain l op' r c' hc' ihl ihr =>
    rcases spread_cases hc h with hone | ⟨l', r', left, right, heq, hl, -, rfl⟩
    · rw [hone]
      exact List.cons_ne_nil _ _
    · cases heq
      exact spread_same ▸ List.append_ne_nil_of_left_ne_nil (ihl hl) _

theorem leavesList_spread (hc : connective? op = some c) (h : classify p e = .ok n) :
    Node.leavesList (spread op e n) = n.leaves := by
  rcases spread_cases hc h with hone | ⟨l, r, left, right, rfl, hl, hr, rfl⟩
  · rw [hone]
    exact List.append_nil _
  · rw [spread_same, leaves_group (List.append_ne_nil_of_left_ne_nil (spread_ne_nil hc hl) _)]
    rfl

/-- A chain has the leaves of both its sides. -/
theorem leaves_chain {left right : Node} (hc : connective? op = some c) (hl : classify p l = .ok left)
    (hr : classify p r = .ok right) :
    (group e p c (spread op l left ++ spread op r right)).leaves = left.leaves ++ right.leaves := by
  rw [leaves_group (List.append_ne_nil_of_left_ne_nil (spread_ne_nil hc hl) _), leavesList_append,
    leavesList_spread hc hl, leavesList_spread hc hr]

end Chain

/-- Classification goes over the atoms, one after the other. -/
theorem leaves_classify (p : Position) (e : Expr) :
    (classify p e).map Node.leaves = e.atoms.mapM (classify p) := by
  induction e using Expr.predicateInduction with
  | atom e he =>
    rw [Expr.atoms_of_isAtom he]
    cases h : classify p e with
    | error err =>
      rw [List.mapM_cons, h]
      rfl
    | ok n =>
      obtain ⟨op, -, -, rfl⟩ := (classify_atom_eq_ok he).1 h
      rw [List.mapM_cons, h]
      rfl
  | nested e ih => exact ih
  | not e ih =>
    show (classify p e >>= fun child => .ok (group (.unary .not e) p .not [child])).map Node.leaves = _
    rw [Expr.atoms, ← ih]
    cases classify p e with
    | error err => rfl
    | ok n => exact congrArg Except.ok (List.append_nil n.leaves)
  | chain l op r c hc ihl ihr =>
    rw [Expr.atoms_chain hc, List.mapM_append, ← ihl, ← ihr, classify_chain hc]
    -- the left side is classified first, so its error comes before any on the right
    cases hl : classify p l with
    | error err => rfl
    | ok left =>
      cases hr : classify p r with
      | error err => rfl
      | ok right => exact congrArg Except.ok (leaves_chain hc hl hr)

/-- A predicate is classified if and only if each of its atoms is; the leaves of its tree are then those of the atoms,
in order. Otherwise the error is that of the first atom that fails: it has no operator, or the wrong number of values. -/
theorem classify_atoms (p : Position) (e : Expr) :
    (∀ a ∈ e.atoms, a.isAtom = true) ∧
    ((∃ n, classify p e = .ok n) ↔ ∀ a ∈ e.atoms, ∃ m, classify p a = .ok m) ∧
    (∀ n, classify p e = .ok n → List.Forall₂ (fun a m => classify p a = .ok m) e.atoms n.leaves) ∧
    ∀ err, classify p e = .error err ↔
      ∃ before a after, e.atoms = before ++ a :: after ∧ (∀ b ∈ before, ∃ m, classify p b = .ok m) ∧
        classify p a = .error err ∧ FailsWith a err := by
  have hatoms := e.isAtom_of_mem_atoms
  have hleaves : ∀ n, classify p e = .ok n → List.Forall₂ (fun a m => classify p a = .ok m) e.atoms n.leaves := by
    intro n hn
    rw [← mapM_eq_ok, ← leaves_classify, hn]
    rfl
  have herror : ∀ err, classify p e = .error err ↔ e.atoms.mapM (classify p) = .error err := by
    intro err
    rw [← leaves_classify]
    cases classify p e with
    | error _ => exact ⟨fun h => congrArg _ (Except.error.inj h), fun h => congrArg _ (Except.error.inj h)⟩
    | ok n => exact ⟨fun h => (nomatch h), fun h => (nomatch h)⟩
  refine ⟨hatoms, ⟨?_, ?_⟩, hleaves, fun err => ?_⟩
  · rintro ⟨n, hn⟩
    exact exists_of_forall₂ (hleaves n hn)
  · intro hall
    cases h : classify p e with
    | ok n => exact ⟨n, rfl⟩
    | error err =>
      obtain ⟨before, a, after, heq, -, ha⟩ := mapM_eq_error.1 ((herror err).1 h)
      obtain ⟨m, hm⟩ := hall a (heq ▸ List.mem_append_right before List.mem_cons_self)
      rw [ha] at hm
      cases hm
  · rw [herror, mapM_eq_error]
    constructor
    · rintro ⟨before, a, after, heq, hbefore, ha⟩
      have hatom := hatoms a (heq ▸ List.mem_append_right before List.mem_cons_self)
      exact ⟨before, a, after, heq, hbefore, ha, (classify_atom_eq_error hatom).1 ha⟩
    · rintro ⟨before, a, after, heq, hbefore, ha, -⟩
      exact ⟨before, a, after, heq, hbefore, ha⟩

/-- `(a = 1 OR NOT b BETWEEN 1 AND 2) AND c = (1, 2) AND d + 1` fails for the values of c, before the sum is reached. -/
theorem classify_atoms_mixed :
    let column (name : String) : Expr := .ident ⟨name, none⟩
    let number (text : String) : Expr := .value (.number text false)
    let a : Expr := .binary (column "a") .eq (number "1")
    let b : Expr := .between (column "b") false (number "1") (number "2")
    let c : Expr := .binary (column "c") .eq (.tuple [number "1", number "2"])
    let d : Expr := .binary (column "d") (.other "+") (number "1")
    let e := Expr.binary (.binary (.nested (.binary a .or (.unary .not b))) .and c) .and d
    e.atoms = [a, b, c, d] ∧ classify .where_ e = .error (.arity .eq "1" 2) ∧ FailsWith c (.arity .eq "1" 2) := by
  intro column number a b c d e
  obtain ⟨-, -, -, herror⟩ := classify_atoms .where_ e
  have hc : FailsWith c (.arity .eq "1" 2) := .inr ⟨.eq, rfl, rfl, by decide⟩
  refine ⟨rfl, (herror _).2 ⟨[a, b], c, [d], rfl, ?_, (classify_atom_eq_error rfl).2 hc, hc⟩, hc⟩
  exact List.forall_mem_cons.2 ⟨⟨_, rfl⟩, List.forall_mem_singleton.2 ⟨_, rfl⟩⟩

end Condition

end SqlTemplate
