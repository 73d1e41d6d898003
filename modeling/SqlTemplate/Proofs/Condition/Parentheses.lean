/-
Redundant parentheses. A pair of parentheses around an operand, at any depth, changes neither what a predicate refers to
nor how wide its rows are; its condition tree stays the same but for the texts, and for a part of a chain that becomes a
group of its own. One thing is lost: a query is one full row when it stands bare or in one pair of parentheses, and a
single value when it stands in more, so that a row of another width cannot be compared with it any longer.
-/
import SqlTemplate.Proofs.Condition.Rows
import SqlTemplate.Proofs.Condition.Summary
import SqlTemplate.Proofs.Condition.Predicates
import Mathlib.Logic.Relation

namespace SqlTemplate

open Condition (Operator Position Node Summary Connective classify connective?)

namespace Expr

/-! ## Parentheses around operands -/

/-- An expression with a hole in the place of one of its operands. -/
inductive Hole : (Expr → Expr) → Prop
  | nested : Hole .nested
  | tuple (before after : List Expr) : Hole fun x => .tuple (before ++ x :: after)
  | unary (op : UnaryOp) : Hole (.unary op)
  | left (op : BinaryOp) (r : Expr) : Hole fun x => .binary x op r
  | right (l : Expr) (op : BinaryOp) : Hole (.binary l op)
  | test (negated : Bool) (truth : TruthTest) : Hole fun x => .test x negated truth
  | distinctLeft (negated : Bool) (r : Expr) : Hole fun x => .distinctFrom x negated r
  | distinctRight (l : Expr) (negated : Bool) : Hole (.distinctFrom l negated)
  | listed (negated : Bool) (items : List Expr) : Hole fun x => .inList x negated items
  | item (e : Expr) (negated : Bool) (before after : List Expr) : Hole fun x => .inList e negated (before ++ x :: after)
  | selected (negated : Bool) (q : Query) : Hole fun x => .inSubquery x negated q
  | ranged (negated : Bool) (low high : Expr) : Hole fun x => .between x negated low high
  | low (e : Expr) (negated : Bool) (high : Expr) : Hole fun x => .between e negated x high
  | high (e : Expr) (negated : Bool) (low : Expr) : Hole (.between e negated low)
  | matched (negated : Bool) (family : PatternFamily) (any : Bool) (pat : Expr) (escape : Option Value) :
    Hole fun x => .pattern x negated family any pat escape
  | pattern (e : Expr) (negated : Bool) (family : PatternFamily) (any : Bool) (escape : Option Value) :
    Hole fun x => .pattern e negated family any x escape
  | quantifiedLeft (op : BinaryOp) (quantifier : Quantifier) (r : Expr) : Hole fun x => .quantified x op quantifier r
  | quantifiedRight (l : Expr) (op : BinaryOp) (quantifier : Quantifier) : Hole (.quantified l op quantifier)
  | cast (style : CastStyle) (type : DataType) (format : CastFormat) : Hole fun x => .cast style x type format
  | caseOperand (branches : List Branch) (otherwise : Option Expr) : Hole fun x => .case (some x) branches otherwise
  | caseCondition (operand : Option Expr) (before : List Branch) (result : Expr) (after : List Branch)
      (otherwise : Option Expr) : Hole fun x => .case operand (before ++ ⟨x, result⟩ :: after) otherwise
  | caseResult (operand : Option Expr) (before : List Branch) (condition : Expr) (after : List Branch)
      (otherwise : Option Expr) : Hole fun x => .case operand (before ++ ⟨condition, x⟩ :: after) otherwise
  | caseOtherwise (operand : Option Expr) (branches : List Branch) : Hole fun x => .case operand branches (some x)
  | argument (callee : Callee) (parameters : Args) (quantifier : Option String) (before after : List Arg)
      (inner clauses : List Clause) :
    Hole fun x => .call callee parameters (.list quantifier (before ++ .expr x :: after) inner) clauses
  | namedArgument (callee : Callee) (parameters : Args) (quantifier : Option String) (before : List Arg) (name : Expr)
      (op : String) (after : List Arg) (inner clauses : List Clause) :
    Hole fun x => .call callee parameters (.list quantifier (before ++ .named name op x :: after) inner) clauses
  | form (f : Form) (before after : List Expr) : Hole fun x => .form f (before ++ x :: after)

/-- The second expression is the first one with one more pair of parentheses, around it or around an operand at any
depth. -/
inductive Wrap : Expr → Expr → Prop
  | here (e : Expr) : Wrap e (.nested e)
  | within {K : Expr → Expr} {e e' : Expr} (hole : Hole K) (h : Wrap e e') : Wrap (K e) (K e')

/-- The second expression is the first one with any number of parentheses around any of its operands. -/
def Wraps : Expr → Expr → Prop := Relation.ReflTransGen Wrap

/-- A query in more than one pair of parentheses. -/
def isBuried (e : Expr) : Bool := e.queryDepth?.any (2 ≤ ·)

/-- A row that is not one value is compared with a query in more than one pair of parentheses. -/
def ComparesBuried : Expr → Prop
  | .binary l _ r => r.isBuried = true ∧ l.width ≠ 1
  | .distinctFrom l _ r => r.isBuried = true ∧ l.width ≠ 1
  | _ => False

section

variable {K : Expr → Expr} {e e' : Expr}

/-! ## What parentheses leave as it is -/

theorem descendantsList_append (xs ys : List Expr) :
    descendantsList (xs ++ ys) = descendantsList xs ++ descendantsList ys := by
  induction xs with
  | nil => rfl
  | cons x xs ih => simp only [List.cons_append, descendantsList, ih, List.append_assoc]

theorem Branch.descendantsList_append (xs ys : List Branch) :
    Branch.descendantsList (xs ++ ys) = Branch.descendantsList xs ++ Branch.descendantsList ys := by
  induction xs with
  | nil => rfl
  | cons x xs ih => simp only [List.cons_append, Branch.descendantsList, ih, List.append_assoc]

theorem Arg.descendantsList_append (xs ys : List Arg) :
    Arg.descendantsList (xs ++ ys) = Arg.descendantsList xs ++ Arg.descendantsList ys := by
  induction xs with
  | nil => rfl
  | cons x xs ih => simp only [List.cons_append, Arg.descendantsList, ih, List.append_assoc]

/-- A walk comes to an operand between what is before it and what is after it, if at all. -/
theorem descendants_hole (hole : Hole K) :
    (∃ before after, ∀ e, (K e).descendants = before ++ (e.subterms ++ after)) ∨ ∀ e, (K e).descendants = [] := by
  cases hole with
  | nested | unary | test | selected | cast => exact .inl ⟨[], [], fun e => (List.append_nil _).symm⟩
  | left op r | distinctLeft negated r | quantifiedLeft op quantifier r => exact .inl ⟨[], r.subterms, fun e => rfl⟩
  | right l op | distinctRight l negated | quantifiedRight l op quantifier =>
    exact .inl ⟨l.subterms, [], fun e => congrArg _ (List.append_nil _).symm⟩
  | tuple before after =>
    exact .inl ⟨descendantsList before, descendantsList after, fun e => descendantsList_append _ _⟩
  | listed negated items => exact .inl ⟨[], descendantsList items, fun e => rfl⟩
  | item x negated before after =>
    refine .inl ⟨x.subterms ++ descendantsList before, descendantsList after, fun e => ?_⟩
    rw [List.append_assoc]
    exact congrArg (x.subterms ++ ·) (descendantsList_append _ _)
  | ranged negated low high => exact .inl ⟨[], low.subterms ++ high.subterms, fun e => List.append_assoc _ _ _⟩
  | low x negated high => exact .inl ⟨x.subterms, high.subterms, fun e => List.append_assoc _ _ _⟩
  | high x negated low =>
    exact .inl ⟨x.subterms ++ low.subterms, [], fun e => congrArg _ (List.append_nil _).symm⟩
  | matched negated family any pat escape => exact .inl ⟨[], pat.subterms, fun e => rfl⟩
  | pattern x negated family any escape => exact .inl ⟨x.subterms, [], fun e => congrArg _ (List.append_nil _).symm⟩
  | caseOperand branches otherwise =>
    exact .inl ⟨[], Branch.descendantsList branches ++ descendantsOption otherwise, fun e => List.append_assoc _ _ _⟩
  | caseCondition operand before result after otherwise =>
    refine .inl ⟨descendantsOption operand ++ Branch.descendantsList before,
      result.subterms ++ Branch.descendantsList after ++ descendantsOption otherwise, fun e => ?_⟩
    simp [descendants, Branch.descendantsList_append, Branch.descendantsList, Branch.descendants, subterms]
  | caseResult operand before condition after otherwise =>
    refine .inl ⟨descendantsOption operand ++ Branch.descendantsList before ++ condition.subterms,
      Branch.descendantsList after ++ descendantsOption otherwise, fun e => ?_⟩
    simp [descendants, Branch.descendantsList_append, Branch.descendantsList, Branch.descendants, subterms]
  | caseOtherwise operand branches =>
    exact .inl ⟨descendantsOption operand ++ Branch.descendantsList branches, [],
      fun e => congrArg _ (List.append_nil _).symm⟩
  | argument callee parameters quantifier before after inner clauses =>
    exact .inl ⟨Arg.descendantsList before, Arg.descendantsList after, fun e => Arg.descendantsList_append _ _⟩
  | namedArgument callee parameters quantifier before name op after inner clauses =>
    exact .inl ⟨Arg.descendantsList before, Arg.descendantsList after, fun e => Arg.descendantsList_append _ _⟩
  -- the walk does not enter forms
  | form => exact .inr fun e => rfl

/-- What a walk takes from an expression does not change if it takes nothing from expressions with operands. -/
theorem filterMap_wrap {β : Type} {g : Expr → Option β} (hg : ∀ K e, Hole K → g (K e) = none) (h : Wrap e e') :
    e'.subterms.filterMap g = e.subterms.filterMap g := by
  induction h with
  | here e => exact List.filterMap_cons_none (hg _ e .nested)
  | @within K e e' hole h ih =>
    rw [subterms, subterms, List.filterMap_cons_none (hg K e' hole), List.filterMap_cons_none (hg K e hole)]
    rcases descendants_hole hole with ⟨before, after, hwalk⟩ | hnone
    · simp only [hwalk, List.filterMap_append, ih]
    · rw [hnone, hnone]

theorem plainColumn?_hole (e : Expr) (hole : Hole K) : (K e).plainColumn? = none := by
  cases hole <;> rfl

theorem isPlaceholder_hole (e : Expr) (hole : Hole K) : (K e).isPlaceholder = false := by
  cases hole <;> rfl

theorem distinctColumns_wrap (h : Wrap e e') : e'.distinctColumns = e.distinctColumns :=
  congrArg Text.distinct (filterMap_wrap (fun _ e => plainColumn?_hole e) h)

theorem placeholderCount_wrap (h : Wrap e e') : e'.placeholderCount = e.placeholderCount := by
  have hcount (e : Expr) :
      e.placeholderCount = (e.subterms.filterMap fun x => if x.isPlaceholder then some () else none).length := by
    rw [List.length_filterMap_eq_countP, placeholderCount]
    congr 1
    funext x
    cases x.isPlaceholder <;> rfl
  rw [hcount, hcount, filterMap_wrap (fun K e hole => by rw [isPlaceholder_hole e hole]; rfl) h]

theorem width_wrap (h : Wrap e e') : e'.width = e.width := by
  induction h with
  | here e => rfl
  | within hole h ih =>
    cases hole with
    | nested => exact ih
    | tuple before after =>
      show (before ++ _ :: after).length = (before ++ _ :: after).length
      rw [List.length_append, List.length_append]
      rfl
    | _ => rfl

/-- A query stays a query, in as many pairs of parentheses or more. -/
theorem queryDepth?_wrap (h : Wrap e e') :
    (e.queryDepth? = none ∧ e'.queryDepth? = none) ∨
      ∃ k k', e.queryDepth? = some k ∧ e'.queryDepth? = some k' ∧ k ≤ k' := by
  induction h with
  | here e =>
    cases hdepth : e.queryDepth? with
    | none => exact .inl ⟨rfl, congrArg _ hdepth⟩
    | some k => exact .inr ⟨k, k + 1, rfl, congrArg _ hdepth, Nat.le_succ k⟩
  | within hole h ih =>
    cases hole with
    | nested =>
      rcases ih with ⟨hnone, hnone'⟩ | ⟨k, k', hk, hk', hle⟩
      · exact .inl ⟨congrArg _ hnone, congrArg _ hnone'⟩
      · exact .inr ⟨k + 1, k' + 1, congrArg _ hk, congrArg _ hk', Nat.succ_le_succ hle⟩
    | _ => exact .inl ⟨rfl, rfl⟩

theorem isBuried_wrap (h : Wrap e e') (hburied : e.isBuried = true) : e'.isBuried = true := by
  rcases queryDepth?_wrap h with ⟨hnone, -⟩ | ⟨k, k', hk, hk', hle⟩
  · rw [isBuried, hnone] at hburied
    cases hburied
  · rw [isBuried, hk] at hburied
    have hdeep : 2 ≤ k := of_decide_eq_true hburied
    rw [isBuried, hk']
    exact decide_eq_true (hdeep.trans hle)

theorem suppliedValues_eq (e : Expr) (width : Nat) :
    Condition.suppliedValues e width = if e.isQuery && !e.isBuried then width else e.width := by
  cases e with
  | nested x =>
    cases x with
    | nested y =>
      cases hdepth : y.queryDepth? <;> simp [isQuery, isBuried, queryDepth?, hdepth, Condition.suppliedValues]
    | _ => rfl
  | _ => rfl

theorem width_of_isQuery : ∀ {e : Expr}, e.isQuery = true → e.width = 1
  | .subquery _, _ => rfl
  | .nested e, h => width_of_isQuery (e := e) (Option.isSome_map.symm.trans h)

theorem isQuery_wrap (h : Wrap e e') : e'.isQuery = e.isQuery := by
  rcases queryDepth?_wrap h with ⟨hnone, hnone'⟩ | ⟨k, k', hk, hk', -⟩
  · rw [isQuery, isQuery, hnone, hnone']
  · rw [isQuery, isQuery, hk, hk']
    rfl

/-- An operand supplies as many values in more parentheses, unless it is a query that is buried in them. -/
theorem suppliedValues_wrap (h : Wrap e e') (width : Nat) :
    Condition.suppliedValues e' width = Condition.suppliedValues e width ∨
      e'.isBuried = true ∧ Condition.suppliedValues e' width = 1 ∧ Condition.suppliedValues e width = width := by
  rw [suppliedValues_eq, suppliedValues_eq, isQuery_wrap h, width_wrap h]
  cases hquery : e.isQuery with
  | false => exact .inl rfl
  | true =>
    have hone := width_of_isQuery hquery
    cases hburied' : e'.isBuried with
    | false =>
      have hburied : e.isBuried = false := by
        by_contra hne
        rw [isBuried_wrap h (Bool.of_not_eq_false hne)] at hburied'
        cases hburied'
      exact .inl (by rw [hburied])
    | true =>
      -- a query that was buried before has lost nothing by more parentheses
      cases e.isBuried with
      | true => exact .inl rfl
      | false => exact .inr ⟨rfl, hone, rfl⟩

/-! ## Atoms in parentheses -/

theorem isAtom_hole (e e' : Expr) (hole : Hole K) : (K e').isAtom = (K e).isAtom := by
  cases hole with
  | unary op | left op | right _ op => cases op <;> rfl
  | _ => rfl

/-- Parentheses around an atom leave it; those in it make it another atom. -/
theorem atoms_wrap (h : Wrap e e') : List.Forall₂ (fun a a' => a' = a ∨ Wrap a a') e.atoms e'.atoms := by
  induction h with
  | here e => exact List.forall₂_same.2 fun _ _ => .inl rfl
  | @within K e e' hole h ih =>
    have hatom (ha : (K e).isAtom = true) :
        List.Forall₂ (fun a a' => a' = a ∨ Wrap a a') (K e).atoms (K e').atoms := by
      rw [atoms_of_isAtom ha, atoms_of_isAtom ((isAtom_hole e e' hole).trans ha)]
      exact .cons (.inr (.within hole h)) .nil
    have hsame (x : Expr) : List.Forall₂ (fun a a' => a' = a ∨ Wrap a a') x.atoms x.atoms :=
      List.forall₂_same.2 fun _ _ => .inl rfl
    cases hole with
    | nested => exact ih
    | unary op =>
      cases op with
      | not => exact ih
      | _ => exact hatom rfl
    | left op r =>
      cases hc : connective? op with
      | none => exact hatom (by rw [isAtom_binary, hc]; rfl)
      | some c =>
        rw [atoms_chain hc, atoms_chain hc]
        exact List.rel_append ih (hsame r)
    | right l op =>
      cases hc : connective? op with
      | none => exact hatom (by rw [isAtom_binary, hc]; rfl)
      | some c =>
        rw [atoms_chain hc, atoms_chain hc]
        exact List.rel_append (hsame l) ih
    | _ => exact hatom rfl

/-- Parentheses do not change the operator of an atom and the row on its left. -/
theorem operator?_wrap (he : e'.isAtom = true) (h : Wrap e e') :
    e.isAtom = true ∧ e'.operator? = e.operator? ∧ e'.leftWidth = e.leftWidth := by
  cases h with
  | here e => cases he
  | @within K e e' hole h =>
    refine ⟨(isAtom_hole e' e hole).trans he, ?_⟩
    cases hole with
    | nested => cases he
    | left | test | distinctLeft | listed | selected | ranged | matched => exact ⟨rfl, width_wrap h⟩
    | _ => exact ⟨rfl, rfl⟩

theorem not_buried_of_suppliedValues {width : Nat} (h : Condition.suppliedValues e width = width) :
    ¬(e.isBuried = true ∧ width ≠ 1) := by
  rintro ⟨hburied, hwidth⟩
  have hquery : e.isQuery = true := by
    rw [isQuery]
    cases hdepth : e.queryDepth? with
    | some k => rfl
    | none => rw [isBuried, hdepth] at hburied; cases hburied
  rw [suppliedValues_eq, hburied, Bool.not_true, Bool.and_false, if_neg Bool.false_ne_true,
    width_of_isQuery hquery] at h
  exact hwidth h.symm

/-- An operand in more parentheses is a row if it was one, unless it is a query that is buried in them. -/
theorem supplies_row_wrap (h : Wrap e e') (width : Nat) :
    Condition.suppliedValues e' width = width ↔
      Condition.suppliedValues e width = width ∧ ¬(e'.isBuried = true ∧ width ≠ 1) := by
  rcases suppliedValues_wrap h width with hsame | ⟨hburied, hone, hrow⟩
  · rw [hsame]
    exact ⟨fun hrow => ⟨hrow, not_buried_of_suppliedValues (hsame.trans hrow)⟩, And.left⟩
  · rw [hone, hburied]
    exact ⟨fun heq => ⟨hrow, fun hne => hne.2 heq.symm⟩, fun hne => (not_not.1 fun hw => hne.2 ⟨rfl, Ne.symm hw⟩)⟩

/-- Parentheses make the values on the right too few exactly when a query is buried in them. -/
theorem fitsInSum_wrap (he : e'.isAtom = true) (h : Wrap e e') :
    e'.FitsInSum ↔ e.FitsInSum ∧ ¬e'.ComparesBuried := by
  cases h with
  | here e => cases he
  | @within K e e' hole h =>
    have hwidth := width_wrap h
    cases hole with
    | nested => cases he
    | right l op => exact supplies_row_wrap h l.width
    | distinctRight l negated => exact supplies_row_wrap h l.width
    | left op r | distinctLeft negated r =>
      show Condition.suppliedValues r e'.width = e'.width ↔
        Condition.suppliedValues r e.width = e.width ∧ ¬(r.isBuried = true ∧ e'.width ≠ 1)
      rw [hwidth]
      exact ⟨fun hrow => ⟨hrow, not_buried_of_suppliedValues hrow⟩, And.left⟩
    | _ => simp [FitsInSum, ComparesBuried, hwidth]

theorem not_comparesBuried_of_fitsInSum (h : e.FitsInSum) : ¬e.ComparesBuried := by
  cases e with
  | binary | distinctFrom => exact not_buried_of_suppliedValues h
  | _ => exact not_false

theorem rightValues_wrap (he : e'.isAtom = true) (h : Wrap e e') (hfits : e.FitsInSum) (hfits' : e'.FitsInSum) :
    e'.rightValues = e.rightValues := by
  cases h with
  | here e => cases he
  | @within K e e' hole h =>
    have hwidth := width_wrap h
    cases hole with
    | nested => cases he
    | right l op => exact Eq.trans hfits' (Eq.symm hfits)
    | distinctRight l negated => exact Eq.trans hfits' (Eq.symm hfits)
    | _ => simp [rightValues, hwidth]

theorem comparesBuried_wrap (he : e'.isAtom = true) (h : Wrap e e') (hburied : e.ComparesBuried) : e'.ComparesBuried := by
  cases h with
  | here e => cases he
  | @within K e e' hole h =>
    cases hole with
    | left | distinctLeft => exact ⟨hburied.1, width_wrap h ▸ hburied.2⟩
    | right | distinctRight => exact ⟨isBuried_wrap h hburied.1, hburied.2⟩
    | nested => cases he
    | _ => cases hburied

end

end Expr

namespace Condition

/-! ## Nodes without their texts -/

def Summary.textless (s : Summary) : Summary := { s with sql := "" }

mutual

/-- The node and all nodes below it, each with its text left out. -/
def Node.textless : Node → Node
  | .leaf op s => .leaf op s.textless
  | .group c s ns => .group c s.textless (Node.textlessList ns)

def Node.textlessList : List Node → List Node
  | [] => []
  | n :: ns => n.textless :: Node.textlessList ns

end

/-- What a group of nodes sums up, its text left out. -/
def total (p : Position) (ns : List Node) : Summary where
  position := p
  columns := Text.distinct (ns.flatMap (·.summary.columns))
  operands := (ns.map (·.summary.operands)).sum
  parameters := (ns.map (·.summary.parameters)).sum
  sql := ""

/-- One part of a chain, at any depth of a tree, becomes a group of its own. -/
inductive Regroup : Node → Node → Prop
  | enclose {c : Connective} (hc : c ≠ .not) (s : Summary) (before ns after : List Node) (h : 2 ≤ ns.length) :
    Regroup (.group c s (before ++ (ns ++ after)))
      (.group c s (before ++ .group c (total s.position ns) ns :: after))
  | under {n n' : Node} (c : Connective) (s : Summary) (before after : List Node) (h : Regroup n n') :
    Regroup (.group c s (before ++ n :: after)) (.group c s (before ++ n' :: after))

/-- The second tree is the first one with parts of its chains as groups of their own. -/
def Regroups : Node → Node → Prop := Relation.ReflTransGen Regroup

section

variable {p : Position} {e e' : Expr} {n n' : Node} {op : BinaryOp} {c : Connective} {s : Summary} {ns : List Node}

open SqlTemplate.Expr (Wrap Wraps Hole)

theorem textlessList_eq (ns : List Node) : Node.textlessList ns = ns.map Node.textless := by
  induction ns with
  | nil => rfl
  | cons n ns ih => exact congrArg (n.textless :: ·) ih

theorem summary_textless (n : Node) : n.textless.summary = n.summary.textless := by
  cases n <;> rfl

theorem textless_group : (Node.group c s ns).textless = .group c s.textless (ns.map Node.textless) := by
  rw [Node.textless, textlessList_eq]

/-! ## One more pair of parentheses -/

theorem accepted_iff_atoms : (∃ n, classify p e = .ok n) ↔ ∀ a ∈ e.atoms, ∃ m, classify p a = .ok m := by
  have hleaves := leaves_classify p e
  constructor
  · rintro ⟨n, hn⟩
    rw [hn] at hleaves
    exact exists_of_forall₂ (mapM_eq_ok.1 hleaves.symm)
  · intro hall
    cases hc : classify p e with
    | ok n => exact ⟨n, rfl⟩
    | error err =>
      rw [hc] at hleaves
      obtain ⟨before, a, after, heq, -, ha⟩ := mapM_eq_error.1 hleaves.symm
      obtain ⟨m, hm⟩ := hall a (heq ▸ List.mem_append_right before List.mem_cons_self)
      cases ha.symm.trans hm

theorem atom_accepted_iff (he : e.isAtom = true) :
    (∃ n, classify p e = .ok n) ↔ ∃ op, e.operator? = some op ∧ e.FitsInSum := by
  constructor
  · rintro ⟨n, hn⟩
    obtain ⟨op, hop, haccepts, -⟩ := (classify_atom_eq_ok he).1 hn
    exact ⟨op, hop, (accepts_iff_fitsInSum hop).1 haccepts⟩
  · rintro ⟨op, hop, hfits⟩
    exact ⟨_, (classify_atom_eq_ok he).2 ⟨op, hop, (accepts_iff_fitsInSum hop).2 hfits, rfl⟩⟩

/-- An atom in which an operand got more parentheses is accepted if it was and no query is buried. -/
theorem atom_accepted_wrap (he : e'.isAtom = true) (h : Wrap e e') :
    (∃ n', classify p e' = .ok n') ↔ (∃ n, classify p e = .ok n) ∧ ¬e'.ComparesBuried := by
  obtain ⟨hatom, hop, -⟩ := Expr.operator?_wrap he h
  rw [atom_accepted_iff he, atom_accepted_iff hatom, hop]
  simp only [Expr.fitsInSum_wrap he h, ← and_assoc, exists_and_right]

theorem atom_textless_wrap (he : e'.isAtom = true) (h : Wrap e e') (hn : classify p e = .ok n)
    (hn' : classify p e' = .ok n') : n'.textless = n.textless := by
  obtain ⟨hatom, hop, -⟩ := Expr.operator?_wrap he h
  obtain ⟨op, hop₁, haccepts, rfl⟩ := (classify_atom_eq_ok hatom).1 hn
  obtain ⟨op', hop₂, haccepts', rfl⟩ := (classify_atom_eq_ok he).1 hn'
  cases (hop.trans hop₁).symm.trans hop₂
  have hvalues := Expr.rightValues_wrap he h ((accepts_iff_fitsInSum hop₁).1 haccepts)
    ((accepts_iff_fitsInSum hop₂).1 haccepts')
  show Node.leaf op ⟨p, e'.distinctColumns, e'.rightValues, e'.placeholderCount, ""⟩ = _
  rw [Expr.distinctColumns_wrap h, Expr.placeholderCount_wrap h, hvalues]
  rfl

/-- In more parentheses a predicate is accepted if it was, unless a query is buried in them. -/
theorem accepted_wrap (h : Wrap e e') :
    (∃ n', classify p e' = .ok n') ↔ (∃ n, classify p e = .ok n) ∧ ∀ a ∈ e'.atoms, ¬a.ComparesBuried := by
  rw [accepted_iff_atoms, accepted_iff_atoms]
  have hatoms := Expr.atoms_wrap h
  have hatom' := e'.isAtom_of_mem_atoms
  generalize e.atoms = as, e'.atoms = as' at hatoms hatom'
  induction hatoms with
  | nil => simp
  | @cons a a' as as' ha has ih =>
    obtain ⟨ha', hrest⟩ := List.forall_mem_cons.1 hatom'
    have hhead : (∃ m', classify p a' = .ok m') ↔ (∃ m, classify p a = .ok m) ∧ ¬a'.ComparesBuried := by
      rcases ha with rfl | hwrap
      · refine ⟨fun hm => ⟨hm, ?_⟩, And.left⟩
        obtain ⟨op, -, hfits⟩ := (atom_accepted_iff ha').1 hm
        exact Expr.not_comparesBuried_of_fitsInSum hfits
      · exact atom_accepted_wrap ha' hwrap
    rw [List.forall_mem_cons, List.forall_mem_cons, List.forall_mem_cons]
    exact (and_congr hhead (ih hrest)).trans and_and_and_comm

/-- What is buried stays buried in more parentheses. -/
theorem not_comparesBuried_of_wrap (h : Wrap e e') (hnone : ∀ a ∈ e'.atoms, ¬a.ComparesBuried) :
    ∀ a ∈ e.atoms, ¬a.ComparesBuried := by
  have hatoms := Expr.atoms_wrap h
  have hatom' := e'.isAtom_of_mem_atoms
  generalize e.atoms = as, e'.atoms = as' at hatoms hatom' hnone
  induction hatoms with
  | nil => exact List.forall_mem_nil _
  | @cons a a' as as' ha has ih =>
    obtain ⟨ha', hatoms'⟩ := List.forall_mem_cons.1 hatom'
    obtain ⟨hhead, hrest⟩ := List.forall_mem_cons.1 hnone
    refine List.forall_mem_cons.2 ⟨?_, ih hatoms' hrest⟩
    rcases ha with rfl | hwrap
    · exact hhead
    · exact fun hburied => hhead (Expr.comparesBuried_wrap ha' hwrap hburied)

/-- The leaves of a predicate in more parentheses are the same, apart from their texts. -/
theorem leaves_wrap (h : Wrap e e') (hn : classify p e = .ok n) (hn' : classify p e' = .ok n') :
    n'.leaves.map Node.textless = n.leaves.map Node.textless := by
  have hleaves := leaves_classify p e
  have hleaves' := leaves_classify p e'
  rw [hn] at hleaves
  rw [hn'] at hleaves'
  have hatoms := Expr.atoms_wrap h
  have hatom' := e'.isAtom_of_mem_atoms
  have hmade := mapM_eq_ok.1 hleaves.symm
  have hmade' := mapM_eq_ok.1 hleaves'.symm
  generalize e.atoms = as, e'.atoms = as', n.leaves = ms, n'.leaves = ms' at hatoms hatom' hmade hmade' ⊢
  induction hatoms generalizing ms ms' with
  | nil => cases hmade; cases hmade'; rfl
  | @cons a a' as as' ha has ih =>
    cases hmade with | cons hm hms => cases hmade' with | cons hm' hms' =>
    obtain ⟨ha', hrest⟩ := List.forall_mem_cons.1 hatom'
    rw [List.map_cons, List.map_cons, ih _ _ hrest hms hms']
    rcases ha with rfl | hwrap
    · cases hm.symm.trans hm'
      rfl
    · rw [atom_textless_wrap ha' hwrap hm hm']

/-- What a tree sums up does not change with more parentheses, apart from the text. -/
theorem summary_wrap (h : Wrap e e') (hn : classify p e = .ok n) (hn' : classify p e' = .ok n') :
    n'.summary.textless = n.summary.textless := by
  have hsums := sums_of_classify hn
  have hsums' := sums_of_classify hn'
  have hoperands : n'.summary.operands = n.summary.operands := by
    have hsum (ms : List Node) :
        (ms.map (·.summary.operands)).sum = ((ms.map Node.textless).map (·.summary.operands)).sum := by
      rw [List.map_map]
      congr 2
      funext m
      exact (congrArg Summary.operands (summary_textless m)).symm
    rw [hsums.operands, hsums'.operands, hsum n'.leaves, hsum n.leaves, leaves_wrap h hn hn']
  have hposition := (position_of_classify p e' n' hn').trans (position_of_classify p e n hn).symm
  have hcolumns := hsums'.columns.trans ((Expr.distinctColumns_wrap h).trans hsums.columns.symm)
  have hparameters := hsums'.parameters.trans ((Expr.placeholderCount_wrap h).trans hsums.parameters.symm)
  rw [Summary.textless, Summary.textless, hoperands, hposition, hcolumns, hparameters]

/-! ## Chains in more parentheses -/

/-- Whether an operand goes on with a chain. -/
def continues (op : BinaryOp) : Expr → Bool
  | .binary _ op' _ => op' == op
  | _ => false

theorem spread_of_continues (h : continues op e = true) : spread op e n = n.children := by
  cases e with
  | binary l op' r => exact if_pos h
  | _ => cases h

theorem spread_of_not_continues (h : continues op e = false) : spread op e n = [n] := by
  cases e with
  | binary l op' r => exact if_neg (Bool.eq_false_iff.1 h)
  | _ => rfl

theorem continues_hole {K : Expr → Expr} (op : BinaryOp) (e e' : Expr) (hole : Hole K) :
    continues op (K e') = continues op (K e) := by
  cases hole <;> rfl

/-- A chain is a group of at least two links. -/
theorem links_of_continues (hc : connective? op = some c) (h : continues op e = true) (hn : classify p e = .ok n) :
    ∃ links, n = group e p c links ∧ 2 ≤ links.length := by
  cases e with
  | binary l op' r =>
    cases eq_of_beq h
    obtain ⟨left, right, hl, hr, rfl⟩ := classify_connective hc hn
    refine ⟨_, rfl, ?_⟩
    rw [List.length_append]
    exact Nat.add_le_add (List.length_pos_of_ne_nil (spread_ne_nil hc hl))
      (List.length_pos_of_ne_nil (spread_ne_nil hc hr))
  | _ => cases h

theorem textless_group_total (e : Expr) (p : Position) (c : Connective) (ns : List Node) :
    (group e p c ns).textless = .group c (total p (ns.map Node.textless)) (ns.map Node.textless) := by
  have hsummary : (group e p c ns).summary.textless = total p (ns.map Node.textless) := by
    rw [Summary.textless, operands_group, parameters_group, total, List.map_map, List.map_map, List.flatMap_map]
    simp only [Function.comp_def, summary_textless]
    rfl
  exact textless_group.trans (congrArg (Node.group c · _) hsummary)

/-- What is regrouped in a chain is regrouped in a longer one. -/
theorem Regroup.longer {ms ms' : List Node} {s' t : Summary} (h : Regroup (.group c s ms) (.group c s' ms'))
    (ht : t.position = s.position) (before after : List Node) :
    Regroup (.group c t (before ++ (ms ++ after))) (.group c t (before ++ (ms' ++ after))) := by
  cases h with
  | enclose hc s first ns last h =>
    simpa [ht] using Regroup.enclose hc t (before ++ first) ns (last ++ after) h
  | under c s first last h => simpa using Regroup.under c t (before ++ first) (last ++ after) h

/-- The links of an operand in more parentheses are the same or regrouped, in every chain that they are part of. -/
theorem spread_wrap (hc : connective? op = some c) (h : Wrap e e') (hn : classify p e = .ok n)
    (hn' : classify p e' = .ok n') (htree : n'.textless = n.textless ∨ Regroup n.textless n'.textless) :
    (spread op e' n').map Node.textless = (spread op e n).map Node.textless ∨
      ∀ s : Summary, s.position = p → ∀ before after,
        Regroup (.group c s (before ++ ((spread op e n).map Node.textless ++ after)))
          (.group c s (before ++ ((spread op e' n').map Node.textless ++ after))) := by
  have hnot : c ≠ .not := by
    rcases eq_of_connective? hc with ⟨-, rfl⟩ | ⟨-, rfl⟩ <;> decide
  cases hchain : continues op e with
  | false =>
    have hchain' : continues op e' = false := by
      cases h with
      | here e => rfl
      | within hole h => exact (continues_hole op _ _ hole).trans hchain
    rw [spread_of_not_continues hchain, spread_of_not_continues hchain']
    rcases htree with heq | hregroup
    · exact .inl (congrArg (fun m => [m]) heq)
    · exact .inr fun s _ before after => .under c s before after hregroup
  | true =>
    obtain ⟨links, rfl, hlength⟩ := links_of_continues hc hchain hn
    rw [spread_of_continues hchain]
    cases h with
    | here e =>
      -- the chain in parentheses is one link of the chain around it
      cases hn.symm.trans hn'
      refine .inr fun s hs before after => ?_
      have henclose := Regroup.enclose hnot s before (links.map Node.textless) after (by rwa [List.length_map])
      rw [hs, ← textless_group_total e p c links] at henclose
      exact henclose
    | @within K x x' hole h =>
      -- what stands in the chain has more parentheses, and the chain goes on
      have hchain' : continues op (K x') = true := (continues_hole op x x' hole).trans hchain
      obtain ⟨links', rfl, -⟩ := links_of_continues hc hchain' hn'
      rw [spread_of_continues hchain']
      rw [textless_group_total, textless_group_total] at htree
      rcases htree with heq | hregroup
      · exact .inl (Node.group.inj heq).2.2
      · exact .inr fun s hs before after => hregroup.longer hs before after

/-- A group whose links are the same or regrouped, and that sums up the same, is the same or regrouped. -/
theorem chain_wrap (first links links' last : List Node)
    (hsummary : (group e' p c (first ++ (links' ++ last))).summary.textless =
      (group e p c (first ++ (links ++ last))).summary.textless)
    (hlinks : links'.map Node.textless = links.map Node.textless ∨
      ∀ s : Summary, s.position = p → ∀ before after,
        Regroup (.group c s (before ++ (links.map Node.textless ++ after)))
          (.group c s (before ++ (links'.map Node.textless ++ after)))) :
    (group e' p c (first ++ (links' ++ last))).textless = (group e p c (first ++ (links ++ last))).textless ∨
      Regroup (group e p c (first ++ (links ++ last))).textless (group e' p c (first ++ (links' ++ last))).textless := by
  have htextless (x : Expr) (ns : List Node) :
      (group x p c ns).textless = .group c (group x p c ns).summary.textless (ns.map Node.textless) := textless_group
  rw [htextless, htextless, hsummary, List.map_append, List.map_append, List.map_append, List.map_append]
  rcases hlinks with heq | hregroup
  · exact .inl (by rw [heq])
  · exact .inr (hregroup _ rfl _ _)

/-- One more pair of parentheses leaves the tree as it is, or makes one part of a chain a group of its own. -/
theorem classify_wrap (h : Wrap e e') (hn : classify p e = .ok n) (hn' : classify p e' = .ok n') :
    n'.textless = n.textless ∨ Regroup n.textless n'.textless := by
  induction h generalizing n n' with
  | here e =>
    cases hn.symm.trans hn'
    exact .inl rfl
  | @within K e e' hole h ih =>
    have hsummary := summary_wrap (.within hole h) hn hn'
    by_cases hatom : (K e').isAtom = true
    · exact .inl (atom_textless_wrap hatom (.within hole h) hn hn')
    -- no atom: the operand is one of AND, OR or NOT, or stands in parentheses already
    cases hole with
    | nested => exact ih hn hn'
    | unary op =>
      cases op with
      | not =>
        obtain ⟨child, hchild, hn⟩ := bind_eq_ok.1 hn
        obtain ⟨child', hchild', hn'⟩ := bind_eq_ok.1 hn'
        cases hn
        cases hn'
        refine chain_wrap [] [child] [child'] [] hsummary ?_
        rcases ih hchild hchild' with heq | hregroup
        · exact .inl (congrArg (fun m => [m]) heq)
        · exact .inr fun s _ before after => .under .not s before after hregroup
      | _ => exact absurd rfl hatom
    | left op r =>
      cases hc : connective? op with
      | none => exact absurd (Expr.isAtom_binary.trans (congrArg Option.isNone hc)) hatom
      | some c =>
        obtain ⟨left, right, hl, hr, rfl⟩ := classify_connective hc hn
        obtain ⟨left', right', hl', hr', rfl⟩ := classify_connective hc hn'
        cases hr.symm.trans hr'
        exact chain_wrap [] _ _ _ hsummary (spread_wrap hc h hl hl' (ih hl hl'))
    | right l op =>
      cases hc : connective? op with
      | none => exact absurd (Expr.isAtom_binary.trans (congrArg Option.isNone hc)) hatom
      | some c =>
        obtain ⟨left, right, hl, hr, rfl⟩ := classify_connective hc hn
        obtain ⟨left', right', hl', hr', rfl⟩ := classify_connective hc hn'
        cases hl.symm.trans hl'
        rw [← List.append_nil (spread op e right), ← List.append_nil (spread op e' right')] at hsummary ⊢
        exact chain_wrap _ _ _ [] hsummary (spread_wrap hc h hr hr' (ih hr hr'))
    | _ => exact absurd rfl hatom

/-! ## Any number of parentheses -/

/-- In more parentheses a predicate is accepted if and only if it was and no query is buried in them that a row is
compared with. Its tree is then the same but for the texts, with parts of its chains as groups of their own; the leaves
are the same, in the same order. -/
theorem classify_wraps (p : Position) (h : Wraps e e') :
    ((∃ n', classify p e' = .ok n') ↔ (∃ n, classify p e = .ok n) ∧ ∀ a ∈ e'.atoms, ¬a.ComparesBuried) ∧
    ∀ n n', classify p e = .ok n → classify p e' = .ok n' →
      Regroups n.textless n'.textless ∧ n'.leaves.map Node.textless = n.leaves.map Node.textless := by
  induction h with
  | refl =>
    constructor
    · refine ⟨fun haccepted => ⟨haccepted, fun a ha => ?_⟩, And.left⟩
      obtain ⟨op, -, hfits⟩ := (atom_accepted_iff (e.isAtom_of_mem_atoms a ha)).1 (accepted_iff_atoms.1 haccepted a ha)
      exact Expr.not_comparesBuried_of_fitsInSum hfits
    · intro n n' hn hn'
      cases hn.symm.trans hn'
      exact ⟨.refl, rfl⟩
  | @tail m e' _ hlast ih =>
    obtain ⟨haccepted, htree⟩ := ih
    constructor
    · rw [accepted_wrap hlast, haccepted]
      refine ⟨fun h => ⟨h.1.1, h.2⟩, fun h => ⟨⟨h.1, ?_⟩, h.2⟩⟩
      exact not_comparesBuried_of_wrap hlast h.2
    · intro n n' hn hn'
      obtain ⟨k, hk⟩ := ((accepted_wrap hlast).1 ⟨n', hn'⟩).1
      obtain ⟨hregroups, hleaves⟩ := htree n k hn hk
      refine ⟨?_, (leaves_wrap hlast hk hn').trans hleaves⟩
      rcases classify_wrap hlast hk hn' with heq | hregroup
      · rwa [heq]
      · exact hregroups.tail hregroup

/-- `a = 1 AND b = 2 AND c = 3` and `(a = (1) AND b = 2) AND c = 3` are both accepted, and have the same leaves. -/
theorem classify_wraps_chain :
    let equal (column value : Expr) : Expr := .binary column .eq value
    let column (name : String) : Expr := .ident ⟨name, none⟩
    let number (text : String) : Expr := .value (.number text false)
    let first := equal (column "a") (number "1")
    let second := equal (column "b") (number "2")
    let third := equal (column "c") (number "3")
    let chain := Expr.binary (.binary first .and second) .and third
    let grouped := Expr.binary (.nested (.binary (equal (column "a") (.nested (number "1"))) .and second)) .and third
    ∃ n n', classify .where_ chain = .ok n ∧ classify .where_ grouped = .ok n' ∧ Regroups n.textless n'.textless ∧
      n'.leaves.map Node.textless = n.leaves.map Node.textless := by
  intro equal column number first second third chain grouped
  have hnumber : Wrap first (equal (column "a") (.nested (number "1"))) := .within (.right (column "a") .eq) (.here _)
  have hinner := Wrap.within (.left .and third) (Wrap.within (.left .and second) hnumber)
  have houter := Wrap.within (.left .and third) (.here (.binary (equal (column "a") (.nested (number "1"))) .and second))
  have hchain : Wraps chain grouped := .tail (.single hinner) houter
  obtain ⟨haccepted, htree⟩ := classify_wraps .where_ hchain
  have hnone : ∀ a ∈ grouped.atoms, ¬a.ComparesBuried := by
    have hatoms : grouped.atoms = [equal (column "a") (.nested (number "1")), second, third] := rfl
    simp only [hatoms, List.forall_mem_cons]
    exact ⟨fun h => h.2 rfl, fun h => h.2 rfl, fun h => h.2 rfl, List.forall_mem_nil _⟩
  obtain ⟨n, hn⟩ := exists_eq_ok (x := classify .where_ chain) (by decide +kernel)
  obtain ⟨n', hn'⟩ := haccepted.2 ⟨⟨n, hn⟩, hnone⟩
  exact ⟨n, n', hn, hn', htree n n' hn hn'⟩

/-- `(a, b) = ((SELECT 1, 2))` compares two rows; with one more pair of parentheses around the query it is refused, as a
row that is compared with one value. -/
theorem not_classify_wraps_buried :
    let column (name : String) : Expr := .ident ⟨name, none⟩
    let number (text : String) : SelectItem := .expr (.value (.number text false)) none
    let q : Query := ⟨false, [], .select ⟨false, [], [number "1", number "2"], none, [], [], none, [], none, []⟩, []⟩
    let row := Expr.tuple [column "a", column "b"]
    let e := Expr.binary row .eq (.nested (.subquery q))
    let e' := Expr.binary row .eq (.nested (.nested (.subquery q)))
    Wraps e e' ∧ (∃ n, classify .where_ e = .ok n) ∧ classify .where_ e' = .error (.arity .eq "2" 1) := by
  intro column number q row e e'
  have hwraps : Wraps e e' := .single (.within (.right row .eq) (.within .nested (.here _)))
  refine ⟨hwraps, exists_eq_ok (by decide +kernel), ?_⟩
  exact (classify_atom_eq_error rfl).2 (.inr ⟨.eq, rfl, rfl, by decide +kernel⟩)

end

end Condition

end SqlTemplate
