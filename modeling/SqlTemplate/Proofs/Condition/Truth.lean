/-
Truth of predicates and of the condition trees they are classified into. SQL has three truth values; a
predicate is AND, OR, NOT and parentheses over predicates that are known by their text, and a condition tree
is groups over leaves that are known by theirs. Classification turns chains into groups and drops
parentheses, and keeps the truth value whatever the leaves are worth.
-/
import SqlTemplate.Condition.Classify
import SqlTemplate.Proofs.Template.Read

namespace SqlTemplate

/-! ## Three truth values -/

inductive Truth where
  | yes
  | no
  | unknown
deriving DecidableEq

namespace Truth

protected def not : Truth → Truth
  | .yes => .no
  | .no => .yes
  | .unknown => .unknown

/-- False if one side is false, true if both are true. -/
protected def and : Truth → Truth → Truth
  | .no, _ => .no
  | .yes, t => t
  | .unknown, .no => .no
  | .unknown, _ => .unknown

/-- True if one side is true, false if both are false. -/
protected def or : Truth → Truth → Truth
  | .yes, _ => .yes
  | .no, t => t
  | .unknown, .yes => .yes
  | .unknown, _ => .unknown

@[simp] theorem and_yes (t : Truth) : t.and .yes = t := by cases t <;> rfl

@[simp] theorem or_no (t : Truth) : t.or .no = t := by cases t <;> rfl

theorem and_assoc (s t u : Truth) : (s.and t).and u = s.and (t.and u) := by
  cases s <;> cases t <;> cases u <;> rfl

theorem or_assoc (s t u : Truth) : (s.or t).or u = s.or (t.or u) := by
  cases s <;> cases t <;> cases u <;> rfl

end Truth

/-- The truth of a predicate, given that of all texts that are no combination of others. -/
def Expr.truth (v : String → Truth) : Expr → Truth
  | .nested e => e.truth v
  | .unary .not e => (e.truth v).not
  | .binary l .and r => (l.truth v).and (r.truth v)
  | .binary l .or r => (l.truth v).or (r.truth v)
  | e => v e.print

namespace Condition

/-- The truth of a group, given that of the conditions below it. -/
def Connective.combine : Connective → List Truth → Truth
  | .and, ts => ts.foldr Truth.and .yes
  | .or, ts => ts.foldr Truth.or .no
  | .not, [t] => t.not
  | .not, _ => .unknown

mutual

/-- The truth of a condition tree, given that of the texts of its leaves. -/
def Node.truth (v : String → Truth) : Node → Truth
  | .leaf _ s => v s.sql
  | .group c _ ns => c.combine (Node.truths v ns)

def Node.truths (v : String → Truth) : List Node → List Truth
  | [] => []
  | n :: ns => n.truth v :: Node.truths v ns

end

/-! ## Classification keeps the truth -/

variable {v : String → Truth} {p : Position} {e : Expr} {n : Node}

theorem Node.truths_append (ms ns : List Node) : Node.truths v (ms ++ ns) = Node.truths v ms ++ Node.truths v ns := by
  induction ms with
  | nil => rfl
  | cons m ms ih => exact congrArg (m.truth v :: ·) ih

theorem eq_of_connective? {op : BinaryOp} {c : Connective} (h : connective? op = some c) :
    op = .and ∧ c = .and ∨ op = .or ∧ c = .or := by
  cases op <;> cases h
  · exact .inl ⟨rfl, rfl⟩
  · exact .inr ⟨rfl, rfl⟩

/-- AND and OR combine in any bracketing. -/
theorem Connective.combine_append {c : Connective} (hc : c ≠ .not) (ts us : List Truth) :
    c.combine (ts ++ us) = c.combine [c.combine ts, c.combine us] := by
  cases c with
  | not => exact absurd rfl hc
  | and =>
    induction ts with
    | nil => exact (Truth.and_yes _).symm
    | cons t ts ih =>
      simp only [combine, List.cons_append, List.foldr_cons, List.foldr_nil, Truth.and_yes] at ih ⊢
      rw [ih, Truth.and_assoc]
  | or =>
    induction ts with
    | nil => exact (Truth.or_no _).symm
    | cons t ts ih =>
      simp only [combine, List.cons_append, List.foldr_cons, List.foldr_nil, Truth.or_no] at ih ⊢
      rw [ih, Truth.or_assoc]

theorem Connective.combine_singleton {c : Connective} (hc : c ≠ .not) (t : Truth) : c.combine [t] = t := by
  cases c with
  | not => exact absurd rfl hc
  | and => exact Truth.and_yes t
  | or => exact Truth.or_no t

theorem truth_leaf {op : Operator} {width found : Nat} (h : leaf e p op width found = .ok n) :
    n.truth v = v e.print := by
  obtain ⟨_, -, h⟩ := bind_eq_ok.1 h
  cases h
  rfl

theorem classify_chain {l r : Expr} {op : BinaryOp} {c : Connective} (hc : connective? op = some c) :
    classify p (.binary l op r) = do
      let left ← classify p l
      let right ← classify p r
      return group (.binary l op r) p c (spread op l left ++ spread op r right) := by
  rcases eq_of_connective? hc with ⟨rfl, rfl⟩ | ⟨rfl, rfl⟩ <;> rfl

theorem classify_connective {l r : Expr} {op : BinaryOp} {c : Connective} (hc : connective? op = some c)
    (h : classify p (.binary l op r) = .ok n) :
    ∃ left right, classify p l = .ok left ∧ classify p r = .ok right ∧
      n = group (.binary l op r) p c (spread op l left ++ spread op r right) := by
  rw [classify_chain hc] at h
  obtain ⟨left, hl, h⟩ := bind_eq_ok.1 h
  obtain ⟨right, hr, h⟩ := bind_eq_ok.1 h
  cases h
  exact ⟨left, right, hl, hr, rfl⟩

/-- A binary predicate that is no connection of others is a leaf. -/
theorem classify_comparison {l r : Expr} {op : BinaryOp} (hc : connective? op = none)
    (h : classify p (.binary l op r) = .ok n) :
    ∃ o, leaf (.binary l op r) p o l.width (suppliedValues r l.width) = .ok n := by
  cases op <;> first | exact ⟨_, h⟩ | cases h | cases hc

theorem classify_test {negated : Bool} {truth : TruthTest} (h : classify p (.test e negated truth) = .ok n) :
    ∃ o, leaf (.test e negated truth) p o e.width 0 = .ok n := by
  cases truth <;> cases negated <;> first | exact ⟨_, h⟩ | cases h

theorem spread_same {l r : Expr} {op : BinaryOp} : spread op (.binary l op r) n = n.children :=
  if_pos (beq_self_eq_true op)

/-- An operand that does not go on with a chain is one link of it. -/
theorem spread_eq_singleton {op : BinaryOp} (h : ∀ l r, e ≠ .binary l op r) : spread op e n = [n] := by
  unfold spread
  split
  · rename_i l op' r
    exact if_neg fun heq => h l r (by rw [beq_iff_eq.1 heq])
  · rfl

/-- An operand of a chain is one link of it, or a chain of the same connective whose links it contributes. -/
theorem spread_cases {op : BinaryOp} {c : Connective} (hc : connective? op = some c) (h : classify p e = .ok n) :
    spread op e n = [n] ∨
      ∃ l r left right, e = .binary l op r ∧ classify p l = .ok left ∧ classify p r = .ok right ∧
        n = group e p c (spread op l left ++ spread op r right) := by
  by_cases hchain : ∃ l r, e = .binary l op r
  · obtain ⟨l, r, rfl⟩ := hchain
    obtain ⟨left, right, hl, hr, rfl⟩ := classify_connective hc h
    exact .inr ⟨l, r, left, right, rfl, hl, hr, rfl⟩
  · exact .inl (spread_eq_singleton fun l r heq => hchain ⟨l, r, heq⟩)

/-- What an operand contributes to a chain is worth as much as the operand. -/
theorem combine_spread {op : BinaryOp} {c : Connective} (hc : connective? op = some c) (h : classify p e = .ok n) :
    c.combine (Node.truths v (spread op e n)) = n.truth v := by
  have hnot : c ≠ .not := by
    rcases eq_of_connective? hc with ⟨-, rfl⟩ | ⟨-, rfl⟩ <;> decide
  rcases spread_cases hc h with hone | ⟨l, r, left, right, rfl, -, -, rfl⟩
  · rw [hone]
    exact Connective.combine_singleton hnot _
  · rw [spread_same]
    rfl

theorem truth_binary {l r : Expr} {op : BinaryOp} {c : Connective} (hc : connective? op = some c) :
    (Expr.binary l op r).truth v = c.combine [l.truth v, r.truth v] := by
  rcases eq_of_connective? hc with ⟨rfl, rfl⟩ | ⟨rfl, rfl⟩
  · simp [Expr.truth, Connective.combine]
  · simp [Expr.truth, Connective.combine]

/-- A condition tree is worth as much as the predicate it was made of, whatever its leaves are worth. -/
theorem truth_of_classify (p : Position) (v : String → Truth) :
    ∀ (e : Expr) (n : Node), classify p e = .ok n → n.truth v = e.truth v
  | .nested e, n, h => truth_of_classify p v e n h
  | .unary .not e, n, h => by
    obtain ⟨child, hchild, h⟩ := bind_eq_ok.1 h
    cases h
    exact congrArg Truth.not (truth_of_classify p v e child hchild)
  | .binary l op r, n, h => by
    cases hc : connective? op with
    | some c =>
      obtain ⟨left, right, hl, hr, rfl⟩ := classify_connective hc h
      have hnot : c ≠ .not := by
        rcases eq_of_connective? hc with ⟨-, rfl⟩ | ⟨-, rfl⟩ <;> decide
      show c.combine (Node.truths v (spread op l left ++ spread op r right)) = _
      rw [Node.truths_append, Connective.combine_append hnot, combine_spread hc hl, combine_spread hc hr,
        truth_of_classify p v l left hl, truth_of_classify p v r right hr, truth_binary hc]
    | none =>
      have hleaf : (Expr.binary l op r).truth v = v (Expr.binary l op r).print := by
        cases op <;> first | rfl | cases hc
      obtain ⟨o, h⟩ := classify_comparison hc h
      rw [hleaf, truth_leaf h]
  | .pattern _ _ _ _ _ _, _, h => truth_leaf h
  | .distinctFrom _ _ _, _, h => truth_leaf h
  | .inList _ _ _, _, h => truth_leaf h
  | .inSubquery _ _ _, _, h => truth_leaf h
  | .between _ _ _ _, _, h => truth_leaf h
  | .test _ _ _, _, h => by
    obtain ⟨o, h⟩ := classify_test h
    exact truth_leaf h
  | .ident _, _, h => truth_leaf h
  | .compound _, _, h => truth_leaf h
  | .exists_ _ _, _, h => truth_leaf h

/-- `(a OR b) AND NOT c AND d`, where b is unknown, d is true and the others are false. -/
theorem truth_of_classify_mixed :
    let column (name : String) : Expr := .ident ⟨name, none⟩
    let e := Expr.binary
      (.binary (.nested (.binary (column "a") .or (column "b"))) .and (.unary .not (column "c"))) .and (column "d")
    let v (text : String) : Truth := if text = "b" then .unknown else if text = "d" then .yes else .no
    ∃ n, classify .where_ e = .ok n ∧ n.children.length = 3 ∧ n.truth v = e.truth v ∧ e.truth v = .unknown :=
  ⟨_, rfl, rfl, truth_of_classify .where_ _ _ _ rfl, rfl⟩

end Condition

end SqlTemplate
