/-
What the nodes of a condition tree say about themselves. Each node belongs to one part of the predicate, and says of it
what a walk over that part alone would find, although a group only puts together what its nodes say: it adds up their
values and placeholders, and drops repetitions from columns that each of them has listed once.
-/
import SqlTemplate.Proofs.Condition.Atoms
import SqlTemplate.Proofs.Condition.Predicates
import SqlTemplate.Proofs.Text.Distinct

namespace SqlTemplate

open Condition (Position Node Connective Operator classify connective?)

/-! ## Nodes and what they belong to -/

mutual

/-- A node and all nodes below it, each before its own. -/
def Condition.Node.nodes : Node → List Node
  | .leaf op s => [.leaf op s]
  | .group c s ns => .group c s ns :: Condition.Node.nodesList ns

def Condition.Node.nodesList : List Node → List Node
  | [] => []
  | n :: ns => n.nodes ++ Condition.Node.nodesList ns

end

/-- The parts of a predicate that have nodes of their own, each before those in it. A chain of one connective is one
part, and `chain` says whose chain the predicate may go on with; parentheses end it, and are no part themselves. -/
def Expr.parts (chain : Option BinaryOp) : Expr → List Expr
  | .nested e => e.parts none
  | .unary .not e => .unary .not e :: e.parts none
  | .binary l op r =>
    if (connective? op).isSome then
      (if chain = some op then [] else [.binary l op r]) ++ l.parts (some op) ++ r.parts (some op)
    else [.binary l op r]
  | e => [e]

namespace Expr

theorem parts_of_isAtom {e : Expr} {chain : Option BinaryOp} (h : e.isAtom = true) : e.parts chain = [e] := by
  cases e with
  | nested e => cases h
  | unary op e => cases op <;> first | rfl | cases h
  | binary l op r =>
    rw [isAtom_binary, Option.isNone_iff_eq_none] at h
    rw [parts, h]
    rfl
  | _ => rfl

theorem parts_chain {l r : Expr} {op : BinaryOp} {c : Connective} {chain : Option BinaryOp}
    (hc : connective? op = some c) :
    (Expr.binary l op r).parts chain =
      (if chain = some op then [] else [.binary l op r]) ++ (l.parts (some op) ++ r.parts (some op)) := by
  rw [parts, hc, Option.isSome_some, if_pos rfl, List.append_assoc]

theorem parts_of_ne {e : Expr} {op : BinaryOp} (h : ∀ l r, e ≠ .binary l op r) : e.parts (some op) = e.parts none := by
  cases e with
  | unary op e => cases op <;> rfl
  | binary l op' r =>
    have hne : some op ≠ some op' := fun heq => h l r (by rw [Option.some.inj heq])
    rw [parts, parts, if_neg hne, if_neg (nofun : (none : Option BinaryOp) ≠ some op')]
  | _ => rfl

/-! ## Walks over what is combined -/

theorem subterms_binary (l : Expr) (op : BinaryOp) (r : Expr) :
    (Expr.binary l op r).subterms = .binary l op r :: (l.subterms ++ r.subterms) := rfl

theorem placeholderCount_binary (l : Expr) (op : BinaryOp) (r : Expr) :
    (Expr.binary l op r).placeholderCount = l.placeholderCount + r.placeholderCount := by
  rw [placeholderCount, subterms_binary, List.countP_cons_of_neg Bool.false_ne_true, List.countP_append]
  rfl

theorem distinctColumns_binary (l : Expr) (op : BinaryOp) (r : Expr) :
    (Expr.binary l op r).distinctColumns = Text.distinct (l.distinctColumns ++ r.distinctColumns) := by
  have hcolumns : (Expr.binary l op r).referencedColumns = l.referencedColumns ++ r.referencedColumns := by
    rw [referencedColumns, subterms_binary, List.filterMap_cons_none rfl, List.filterMap_append]
    rfl
  rw [distinctColumns, hcolumns, distinctColumns, distinctColumns, Text.distinct_append_distinct]

end Expr

namespace Condition

variable {p : Position} {e l r : Expr} {n left right : Node} {op : BinaryOp} {c : Connective} {ns : List Node}

/-! ## Sums -/

theorem operands_group : (group e p c ns).summary.operands = (ns.map (·.summary.operands)).sum := by
  rw [List.sum_eq_foldl, List.foldl_map]
  rfl

theorem parameters_group : (group e p c ns).summary.parameters = (ns.map (·.summary.parameters)).sum := by
  rw [List.sum_eq_foldl, List.foldl_map]
  rfl

/-- Where a group adds up what its nodes say, the links of an operand add up to what its node says. -/
theorem sum_spread {f : Node → Nat} (hf : ∀ e c ns, f (group e p c ns) = (ns.map f).sum) (hc : connective? op = some c)
    (h : classify p e = .ok n) : ((spread op e n).map f).sum = f n := by
  rcases spread_cases hc h with hone | ⟨l, r, left, right, rfl, -, -, rfl⟩
  · rw [hone]
    exact List.sum_singleton
  · rw [spread_same, hf]
    rfl

theorem sum_chain {f : Node → Nat} (hf : ∀ e c ns, f (group e p c ns) = (ns.map f).sum) (hc : connective? op = some c)
    (hl : classify p l = .ok left) (hr : classify p r = .ok right) :
    f (group e p c (spread op l left ++ spread op r right)) = f left + f right := by
  rw [hf, List.map_append, List.sum_append, sum_spread hf hc hl, sum_spread hf hc hr]

theorem distinct_columns_spread (hc : connective? op = some c) (h : classify p e = .ok n) :
    Text.distinct ((spread op e n).flatMap (·.summary.columns)) = Text.distinct n.summary.columns := by
  rcases spread_cases hc h with hone | ⟨l, r, left, right, rfl, -, -, rfl⟩
  · rw [hone, List.flatMap_singleton]
  · rw [spread_same]
    exact (Text.distinct_distinct _).symm

/-- What each link of a chain has listed once is listed as if both sides were listed together. -/
theorem columns_chain (hc : connective? op = some c) (hl : classify p l = .ok left) (hr : classify p r = .ok right) :
    (group e p c (spread op l left ++ spread op r right)).summary.columns =
      Text.distinct (left.summary.columns ++ right.summary.columns) := by
  show Text.distinct ((spread op l left ++ spread op r right).flatMap (·.summary.columns)) = _
  rw [List.flatMap_append, ← Text.distinct_append_distinct, distinct_columns_spread hc hl,
    distinct_columns_spread hc hr, Text.distinct_append_distinct]

/-- What a node sums up is what is in its predicate, and in its leaves. -/
structure Sums (e : Expr) (n : Node) : Prop where
  operands : n.summary.operands = (n.leaves.map (·.summary.operands)).sum
  parameters : n.summary.parameters = e.placeholderCount
  columns : n.summary.columns = e.distinctColumns

theorem sums_of_classify (h : classify p e = .ok n) : Sums e n := by
  induction e using Expr.predicateInduction generalizing n with
  | atom e he =>
    obtain ⟨op, -, -, rfl⟩ := (classify_atom_eq_ok he).1 h
    exact ⟨List.sum_singleton.symm, rfl, rfl⟩
  | nested e ih =>
    obtain ⟨hoperands, hparameters, hcolumns⟩ := ih h
    exact ⟨hoperands, hparameters, hcolumns⟩
  | not e ih =>
    obtain ⟨child, hchild, h⟩ := bind_eq_ok.1 h
    cases h
    obtain ⟨hoperands, hparameters, hcolumns⟩ := ih hchild
    refine ⟨?_, ?_, ?_⟩
    · have hleaves : (group (.unary .not e) p .not [child]).leaves = child.leaves := List.append_nil _
      rw [hleaves]
      exact (Nat.zero_add _).trans hoperands
    · exact (Nat.zero_add _).trans hparameters
    · show Text.distinct (child.summary.columns ++ []) = e.distinctColumns
      rw [List.append_nil, hcolumns, Expr.distinctColumns, Text.distinct_distinct]
  | chain l op r c hc ihl ihr =>
    obtain ⟨left, right, hl, hr, rfl⟩ := classify_connective hc h
    have hleft := ihl hl
    have hright := ihr hr
    refine ⟨?_, ?_, ?_⟩
    · rw [sum_chain (f := (·.summary.operands)) (fun _ _ _ => operands_group) hc hl hr, leaves_chain hc hl hr,
        List.map_append, List.sum_append, hleft.operands, hright.operands]
    · rw [sum_chain (f := (·.summary.parameters)) (fun _ _ _ => parameters_group) hc hl hr,
        Expr.placeholderCount_binary, hleft.parameters, hright.parameters]
    · rw [columns_chain hc hl hr, Expr.distinctColumns_binary, hleft.columns, hright.columns]

/-! ## Nodes -/

theorem kind_ne_complex (op : Operator) : op.kind ≠ .complex := by
  cases op <;> decide

/-- What the node of the part `x` of a predicate at `p` is and says. -/
structure Describes (p : Position) (x : Expr) (m : Node) : Prop where
  made : classify p x = .ok m
  position : m.summary.position = p
  text : m.summary.sql = x.print
  kind : m.kind = .complex ↔ m.connective?.isSome = true
  operator : m.operator? = none ↔ m.connective?.isSome = true
  children : m.children ≠ [] ↔ m.connective?.isSome = true
  negation : m.connective? = some .not → m.children.length = 1
  chain : m.connective? = some .and ∨ m.connective? = some .or → 2 ≤ m.children.length
  leaf : ∀ op, m.operator? = some op → m.kind = op.kind ∧ op.arity.accepts x.leftWidth m.summary.operands = true
  sums : Sums x m

theorem describes_atom (he : e.isAtom = true) (h : classify p e = .ok n) : Describes p e n := by
  have hsums := sums_of_classify h
  obtain ⟨op, -, haccepts, rfl⟩ := (classify_atom_eq_ok he).1 h
  exact {
    made := h
    position := rfl
    text := rfl
    kind := ⟨fun hk => absurd hk (kind_ne_complex op), fun hk => (nomatch hk)⟩
    operator := ⟨fun ho => (nomatch ho), fun ho => (nomatch ho)⟩
    children := ⟨fun hne => absurd rfl hne, fun hne => (nomatch hne)⟩
    negation := fun hn => (nomatch hn)
    chain := fun hn => hn.elim (fun hn => (nomatch hn)) (fun hn => (nomatch hn))
    leaf := fun _ ho => Option.some.inj ho ▸ ⟨rfl, haccepts⟩
    sums := hsums }

/-- A group is described by what it puts together, if that is as much as its connective takes. -/
theorem describes_group (h : classify p e = .ok (group e p c ns)) (hne : ns ≠ []) (hnot : c = .not → ns.length = 1)
    (hchain : c = .and ∨ c = .or → 2 ≤ ns.length) : Describes p e (group e p c ns) where
  made := h
  position := rfl
  text := rfl
  kind := iff_of_true rfl rfl
  operator := iff_of_true rfl rfl
  children := iff_of_true hne rfl
  negation := fun hc => hnot (Option.some.inj hc)
  chain := fun hc => hchain (hc.imp Option.some.inj Option.some.inj)
  leaf := fun _ ho => (nomatch ho)
  sums := sums_of_classify h

theorem describes_chain (hc : connective? op = some c) (hl : classify p l = .ok left) (hr : classify p r = .ok right) :
    Describes p (.binary l op r) (group (.binary l op r) p c (spread op l left ++ spread op r right)) := by
  have hleft := spread_ne_nil hc hl
  have hright := spread_ne_nil hc hr
  have hlength : 2 ≤ (spread op l left ++ spread op r right).length := by
    rw [List.length_append]
    exact Nat.add_le_add (List.length_pos_of_ne_nil hleft) (List.length_pos_of_ne_nil hright)
  refine describes_group ?_ (List.append_ne_nil_of_left_ne_nil hleft _) (fun hnot => ?_) fun _ => hlength
  · rw [classify_chain hc, hl, hr]
    rfl
  · rcases eq_of_connective? hc with ⟨-, rfl⟩ | ⟨-, rfl⟩ <;> cases hnot

theorem nodesList_append (ms ns : List Node) : Node.nodesList (ms ++ ns) = Node.nodesList ms ++ Node.nodesList ns := by
  induction ms with
  | nil => rfl
  | cons m ms ih =>
    show m.nodes ++ Node.nodesList (ms ++ ns) = _
    rw [ih, ← List.append_assoc]
    rfl

theorem nodesList_singleton (n : Node) : Node.nodesList [n] = n.nodes := List.append_nil _

/-- An operand that does not go on with a chain contributes what it is on its own. -/
theorem describes_link (h : ∀ l r, e ≠ .binary l op r) (hparts : List.Forall₂ (Describes p) (e.parts none) n.nodes) :
    List.Forall₂ (Describes p) (e.parts (some op)) (Node.nodesList (spread op e n)) := by
  rw [Expr.parts_of_ne h, spread_eq_singleton h, nodesList_singleton]
  exact hparts

/-- The nodes of a tree describe the parts of its predicate; the links that an operand contributes to a chain, those of
the operand as a part of the chain. -/
theorem describes_parts (h : classify p e = .ok n) :
    List.Forall₂ (Describes p) (e.parts none) n.nodes ∧
      ∀ op c, connective? op = some c →
        List.Forall₂ (Describes p) (e.parts (some op)) (Node.nodesList (spread op e n)) := by
  induction e using Expr.predicateInduction generalizing n with
  | atom e he =>
    have hparts : List.Forall₂ (Describes p) (e.parts none) n.nodes := by
      have hnode := describes_atom he h
      obtain ⟨op, -, -, rfl⟩ := (classify_atom_eq_ok he).1 h
      rw [Expr.parts_of_isAtom he]
      exact .cons hnode .nil
    refine ⟨hparts, fun op c hc => describes_link ?_ hparts⟩
    rintro l r rfl
    rw [Expr.isAtom_binary, hc] at he
    cases he
  | nested e ih =>
    have hparts := (ih h).1
    exact ⟨hparts, fun op c hc => describes_link (fun _ _ heq => nomatch heq) hparts⟩
  | not e ih =>
    have hnode := h
    obtain ⟨child, hchild, h⟩ := bind_eq_ok.1 h
    cases h
    have hparts : List.Forall₂ (Describes p) ((Expr.unary .not e).parts none)
        (group (.unary .not e) p .not [child]).nodes := by
      refine .cons (describes_group hnode (List.cons_ne_nil _ _) (fun _ => rfl) (fun hc => ?_)) ?_
      · rcases hc with hc | hc <;> cases hc
      · rw [nodesList_singleton]
        exact (ih hchild).1
    exact ⟨hparts, fun op c hc => describes_link (fun _ _ heq => nomatch heq) hparts⟩
  | chain l op r c hc ihl ihr =>
    obtain ⟨left, right, hl, hr, rfl⟩ := classify_connective hc h
    -- whether the chain is a part of its own or goes on with another one, its links are those of both sides
    have hlinks : List.Forall₂ (Describes p) (l.parts (some op) ++ r.parts (some op))
        (Node.nodesList (spread op l left ++ spread op r right)) := by
      rw [nodesList_append]
      exact List.rel_append ((ihl hl).2 op c hc) ((ihr hr).2 op c hc)
    have hparts : List.Forall₂ (Describes p) ((Expr.binary l op r).parts none)
        (group (.binary l op r) p c (spread op l left ++ spread op r right)).nodes := by
      rw [Expr.parts_chain hc]
      exact .cons (describes_chain hc hl hr) hlinks
    refine ⟨hparts, fun op' c' hc' => ?_⟩
    by_cases heq : op = op'
    · subst heq
      rw [Expr.parts_chain hc, if_pos rfl, spread_same]
      exact hlinks
    · exact describes_link (fun _ _ h => heq (by cases h; rfl)) hparts

/-- Each node of a condition tree describes the part of the predicate that it was made of, and these are all parts, in
order; in particular the root counts the placeholders of the whole predicate and lists its columns. -/
theorem classify_exact (h : classify p e = .ok n) :
    List.Forall₂ (Describes p) (e.parts none) n.nodes ∧
      n.summary.parameters = e.placeholderCount ∧ n.summary.columns = e.distinctColumns :=
  ⟨(describes_parts h).1, (sums_of_classify h).parameters, (sums_of_classify h).columns⟩

/-- `(a = ? OR NOT b BETWEEN ? AND a) AND (b = a AND c) AND c`: the chain in parentheses is a node of its own, and the
columns are listed once. -/
theorem classify_exact_nested :
    let column (name : String) : Expr := .ident ⟨name, none⟩
    let any : Expr := .value (.placeholder "?")
    let within : Expr := .between (column "b") false any (column "a")
    let either : Expr := .binary (.binary (column "a") .eq any) .or (.unary .not within)
    let both : Expr := .binary (.binary (column "b") .eq (column "a")) .and (column "c")
    let e := Expr.binary (.binary (.nested either) .and (.nested both)) .and (column "c")
    ∃ n, classify .where_ e = .ok n ∧ List.Forall₂ (Describes .where_) (e.parts none) n.nodes ∧ n.children.length = 3 ∧
      n.nodes.length = 9 ∧ n.summary.parameters = 2 ∧ n.summary.columns = ["a", "b", "c"] := by
  intro column any within either both e
  obtain ⟨n, hn, hchildren, hlength⟩ :
      ∃ n, classify .where_ e = .ok n ∧ n.children.length = 3 ∧ n.nodes.length = 9 := by
    refine ⟨_, rfl, ?_, ?_⟩ <;> decide
  obtain ⟨hnodes, hparameters, hcolumns⟩ := classify_exact hn
  exact ⟨n, hn, hnodes, hchildren, hlength, hparameters, hcolumns⟩

end Condition

end SqlTemplate
