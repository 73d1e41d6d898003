/-
All predicates that are written in a statement, wherever they stand, and which of them the collection of conditions
comes to: those of WHERE and HAVING, and those of ON after the operators that it knows. It comes to no clause, be it one
of a query, a table, a star or a call, to no argument of a special form, to no MATCH_CONDITION, to no relation that is
computed from expressions, to no query that INSERT sets a column to, and to no WITH list in front of inserted rows. Each
predicate that it comes to gives one node, and no other node is that of a predicate.
-/
import SqlTemplate.Proofs.Condition.Collect
import SqlTemplate.Proofs.Condition.Truth
import Mathlib.Data.List.Forall2

namespace SqlTemplate

open Condition (Position Node classify pairing)

namespace Condition

/-- A predicate as it is written in a statement, the clause whose predicate it is, and whether it stands where the
collection comes. -/
structure Predicate where
  position : Position
  isMet : Bool
  expr : Expr

/-- Predicates in a part of a statement that the collection passes by. -/
def passed (ps : List Predicate) : List Predicate := ps.map fun p => { p with isMet := false }

end Condition

open Condition

/-! ## Predicates -/

mutual

/-- The predicates in the queries nested in an expression. -/
def Expr.predicates : Expr → List Predicate
  | .ident _ => []
  | .compound _ => []
  | .value _ => []
  | .nested e => e.predicates
  | .tuple items => Expr.predicatesList items
  | .unary _ e => e.predicates
  | .binary l _ r => l.predicates ++ r.predicates
  | .test e _ _ => e.predicates
  | .distinctFrom l _ r => l.predicates ++ r.predicates
  | .inList e _ items => e.predicates ++ Expr.predicatesList items
  | .inSubquery e _ q => q.predicates ++ e.predicates
  | .between e _ low high => e.predicates ++ low.predicates ++ high.predicates
  | .pattern e _ _ _ p _ => e.predicates ++ p.predicates
  | .quantified l _ _ r => l.predicates ++ r.predicates
  | .cast _ e _ _ => e.predicates
  | .case operand branches otherwise =>
    Expr.predicatesOption operand ++ Branch.predicatesList branches ++ Expr.predicatesOption otherwise
  | .subquery q => q.predicates
  | .exists_ _ q => q.predicates
  | .call _ parameters args clauses =>
    args.predicates ++ passed (parameters.predicates ++ Clause.predicatesList clauses)
  | .form _ args => passed (Expr.predicatesList args)

def Expr.predicatesList : List Expr → List Predicate
  | [] => []
  | e :: es => e.predicates ++ Expr.predicatesList es

def Expr.predicatesOption : Option Expr → List Predicate
  | none => []
  | some e => e.predicates

def Expr.predicatesRows : List (List Expr) → List Predicate
  | [] => []
  | row :: rows => Expr.predicatesList row ++ Expr.predicatesRows rows

/-- The predicate of a clause and those in the queries nested in it. -/
def Expr.predicatesAt (p : Position) : Option Expr → List Predicate
  | none => []
  | some e => ⟨p, true, e⟩ :: e.predicates

def Branch.predicates : Branch → List Predicate
  | ⟨condition, result⟩ => condition.predicates ++ result.predicates

def Branch.predicatesList : List Branch → List Predicate
  | [] => []
  | b :: bs => b.predicates ++ Branch.predicatesList bs

def Args.predicates : Args → List Predicate
  | .absent => []
  | .subquery q => q.predicates
  | .list _ items clauses => Arg.predicatesList items ++ passed (Clause.predicatesList clauses)

def Arg.predicates : Arg → List Predicate
  | .expr e => e.predicates
  | .named name _ e => e.predicates ++ passed name.predicates
  | .star _ => []
  | .namedStar name _ _ => passed name.predicates

def Arg.predicatesList : List Arg → List Predicate
  | [] => []
  | a :: as => a.predicates ++ Arg.predicatesList as

def Clause.predicates : Clause → List Predicate
  | ⟨_, args⟩ => Expr.predicatesList args

def Clause.predicatesList : List Clause → List Predicate
  | [] => []
  | c :: cs => c.predicates ++ Clause.predicatesList cs

def Query.predicates : Query → List Predicate
  | ⟨_, ctes, body, clauses⟩ => Cte.predicatesList ctes ++ body.predicates ++ passed (Clause.predicatesList clauses)

/-- The predicates of the query that rows are inserted from. The WITH list in front of rows that are paired with
columns is passed by. -/
def Query.sourcePredicates (columns : List Ident) : Query → List Predicate
  | ⟨_, ctes, body, clauses⟩ =>
    (match body with
      | .values _ rows =>
        if columns.isEmpty then Cte.predicatesList ctes ++ Expr.predicatesRows rows
        else Expr.predicatesRows rows ++ passed (Cte.predicatesList ctes)
      | other => Cte.predicatesList ctes ++ other.predicates) ++ passed (Clause.predicatesList clauses)

def Query.sourcePredicatesOption (columns : List Ident) : Option Query → List Predicate
  | none => []
  | some q => q.sourcePredicates columns

def Cte.predicates : Cte → List Predicate
  | ⟨_, _, q, _⟩ => q.predicates

def Cte.predicatesList : List Cte → List Predicate
  | [] => []
  | c :: cs => c.predicates ++ Cte.predicatesList cs

/-- A DELETE that a WITH list stands before is passed by. -/
def SetExpr.predicates : SetExpr → List Predicate
  | .select s => s.predicates
  | .query q => q.predicates
  | .operation l _ _ r => l.predicates ++ r.predicates
  | .values _ rows => Expr.predicatesRows rows
  | .table _ => []
  | .insert i => i.predicates
  | .update u => u.predicates
  | .delete d => passed d.predicates

def Select.predicates : Select → List Predicate
  | ⟨_, quantifiers, projection, _, tables, beforeWhere, selection, grouping, having, windows⟩ =>
    SelectItem.predicatesList projection ++ TableTree.predicatesList tables ++ Expr.predicatesAt .where_ selection ++
      Expr.predicatesAt .having having ++
      passed (Clause.predicatesList quantifiers ++ Clause.predicatesList beforeWhere ++
        Clause.predicatesList grouping ++ Clause.predicatesList windows)

def SelectItem.predicates : SelectItem → List Predicate
  | .expr e _ => e.predicates
  | .wildcard _ options => passed (Clause.predicatesList options)

def SelectItem.predicatesList : List SelectItem → List Predicate
  | [] => []
  | i :: is => i.predicates ++ SelectItem.predicatesList is

def TableTree.predicates : TableTree → List Predicate
  | ⟨relation, joins⟩ => relation.predicates ++ Join.predicatesList joins

def TableTree.predicatesList : List TableTree → List Predicate
  | [] => []
  | t :: ts => t.predicates ++ TableTree.predicatesList ts

def Factor.predicates : Factor → List Predicate
  | .table _ _ _ clauses => passed (Clause.predicatesList clauses)
  | .tableCall _ args _ _ clauses => passed (Arg.predicatesList args ++ Clause.predicatesList clauses)
  | .derived _ q _ => q.predicates
  | .nested t _ => t.predicates
  | .computed body _ _ => passed body.predicates
  | .turned f turn _ => passed (f.predicates ++ turn.predicates)

/-- The ON expression of a join is met if the operator is one that takes a condition. -/
def Join.predicates : Join → List Predicate
  | ⟨_, op, relation, matching, condition, _⟩ =>
    relation.predicates ++
      (if op.hasCondition then Expr.predicatesAt .joinOn condition else passed (Expr.predicatesAt .joinOn condition)) ++
      passed (Expr.predicatesOption matching)

def Join.predicatesList : List Join → List Predicate
  | [] => []
  | j :: js => j.predicates ++ Join.predicatesList js

def Assignment.predicates : Assignment → List Predicate
  | ⟨_, v⟩ => v.predicates

def Assignment.predicatesList : List Assignment → List Predicate
  | [] => []
  | a :: as => a.predicates ++ Assignment.predicatesList as

/-- What INSERT sets columns to is passed by. -/
def Insert.predicates : Insert → List Predicate
  | ⟨_, _, _, _, columns, partition, source, assignments, _, onClause, returning⟩ =>
    Query.sourcePredicatesOption columns source ++
      passed (Assignment.predicatesList assignments ++ Expr.predicatesList partition ++ Clause.predicatesList onClause ++
        SelectItem.predicatesList returning)

def Update.predicates : Update → List Predicate
  | ⟨_, table, sources, sourcesFirst, assignments, selection, returning⟩ =>
    table.predicates ++ (if sourcesFirst then TableTree.predicatesList sources else []) ++
      Assignment.predicatesList assignments ++ (if sourcesFirst then [] else TableTree.predicatesList sources) ++
      Expr.predicatesAt .where_ selection ++ passed (SelectItem.predicatesList returning)

def Delete.predicates : Delete → List Predicate
  | ⟨_, _, tables, usingTables, selection, returning, clauses⟩ =>
    TableTree.predicatesList tables ++ TableTree.predicatesList usingTables ++ Expr.predicatesAt .where_ selection ++
      passed (SelectItem.predicatesList returning ++ Clause.predicatesList clauses)

end

/-- The predicates written anywhere in a statement. -/
def Statement.predicates : Statement → List Predicate
  | .query q => q.predicates
  | .insert i => i.predicates
  | .update u => u.predicates
  | .delete d => d.predicates
  | .other => []

namespace Condition

/-! ## Nodes of predicates -/

variable {e : Expr} {p : Position} {n : Node}

theorem position_leaf {op : Operator} {width found : Nat} (h : leaf e p op width found = .ok n) : n.summary.position = p := by
  obtain ⟨_, -, h⟩ := bind_eq_ok.1 h
  cases h
  rfl

/-- A condition tree stands where its predicate does. -/
theorem position_of_classify (p : Position) : ∀ (e : Expr) (n : Node), classify p e = .ok n → n.summary.position = p
  | .nested e, n, h => position_of_classify p e n h
  | .unary .not e, n, h => by
    obtain ⟨child, -, h⟩ := bind_eq_ok.1 h
    cases h
    rfl
  | .binary l op r, n, h => by
    cases hc : connective? op with
    | some c =>
      obtain ⟨left, right, -, -, rfl⟩ := classify_connective hc h
      rfl
    | none =>
      obtain ⟨o, h⟩ := classify_comparison hc h
      exact position_leaf h
  | .pattern _ _ _ _ _ _, _, h => position_leaf h
  | .distinctFrom _ _ _, _, h => position_leaf h
  | .inList _ _ _, _, h => position_leaf h
  | .inSubquery _ _ _, _, h => position_leaf h
  | .between _ _ _ _, _, h => position_leaf h
  | .test _ _ _, _, h => by
    obtain ⟨o, h⟩ := classify_test h
    exact position_leaf h
  | .ident _, _, h => position_leaf h
  | .compound _, _, h => position_leaf h
  | .exists_ _ _, _, h => position_leaf h

theorem position_of_pairing {columns : List String} {width : Nat} {v : Expr} (h : pairing columns width v p = .ok n) :
    n.summary.position = p := by
  obtain ⟨_, -, h⟩ := bind_eq_ok.1 h
  cases h
  rfl

/-- Whether conditions of this position are predicates; the others are pairings of columns with values. -/
def Position.isPredicate : Position → Bool
  | .where_ | .joinOn | .having => true
  | .insertValues | .updateSet => false

def Node.isPredicate (n : Node) : Bool := n.summary.position.isPredicate

/-- A pairing is no predicate. -/
theorem not_isPredicate_of_pairing {columns : List String} {width : Nat} {v : Expr} (hp : p.isPredicate = false)
    (h : pairing columns width v p = .ok n) : ¬n.isPredicate = true := by
  rw [Node.isPredicate, position_of_pairing h, hp]
  exact Bool.false_ne_true

/-- `n` is the node of the predicate. -/
def Predicate.Makes (p : Predicate) (n : Node) : Prop := classify p.position p.expr = .ok n ∧ n.summary.position = p.position

/-- The collection came to `ps`: of these predicates, each that is met has its node, in order, and no other node is that
of a predicate. -/
def Gives (x : Conditions) (ps : List Predicate) : Prop :=
  Yields x fun ns => List.Forall₂ Predicate.Makes (ps.filter Predicate.isMet) (ns.filter Node.isPredicate)

variable {x y z w : Conditions} {ps qs rs us : List Predicate}

theorem gives_nil : Gives (.ok []) [] := yields_ok .nil

theorem filter_passed (ps : List Predicate) : (passed ps).filter Predicate.isMet = [] := by
  rw [List.filter_eq_nil_iff]
  intro p hp
  obtain ⟨_, -, rfl⟩ := List.mem_map.1 hp
  exact Bool.false_ne_true

theorem gives_passed (ps : List Predicate) : Gives (.ok []) (passed ps) := by
  apply yields_ok
  rw [filter_passed]
  exact .nil

namespace Gives

theorem both (hx : Gives x ps) (hy : Gives y qs) : Gives (gather x y) (ps ++ qs) := by
  refine Yields.gather hx hy fun ns ms hn hm => ?_
  rw [List.filter_append, List.filter_append]
  exact List.rel_append hn hm

theorem three (hx : Gives x ps) (hy : Gives y qs) (hz : Gives z rs) :
    Gives (do return (← x) ++ (← y) ++ (← z)) (ps ++ qs ++ rs) := by
  rw [gather_three]
  exact both (both hx hy) hz

/-- What is not come to adds nothing. -/
theorem passing (hx : Gives x ps) (qs : List Predicate) : Gives x (ps ++ passed qs) := by
  intro ns hn
  rw [List.filter_append, filter_passed, List.append_nil]
  exact hx ns hn

/-- A predicate of a clause has its node before those of the queries nested in it. -/
theorem predicate (hp : p.isPredicate = true) (hx : Gives x ps) :
    Gives (do let n ← classify p e; return n :: (← x)) (⟨p, true, e⟩ :: ps) := by
  intro ns hn
  obtain ⟨n, hc, hn⟩ := bind_eq_ok.1 hn
  obtain ⟨inner, hi, hn⟩ := bind_eq_ok.1 hn
  cases hn
  have hpos := position_of_classify p e n hc
  have hmet : Node.isPredicate n = true := by rw [Node.isPredicate, hpos, hp]
  rw [List.filter_cons_of_pos hmet, List.filter_cons_of_pos rfl]
  exact .cons ⟨hc, hpos⟩ (hx inner hi)

theorem pairing {columns : List String} {width : Nat} {v : Expr} (hp : p.isPredicate = false) (hx : Gives x ps) :
    Gives (do let n ← Condition.pairing columns width v p; return n :: (← x)) ps := by
  intro ns hn
  obtain ⟨n, hc, hn⟩ := bind_eq_ok.1 hn
  obtain ⟨inner, hi, hn⟩ := bind_eq_ok.1 hn
  cases hn
  rw [List.filter_cons_of_neg (not_isPredicate_of_pairing hp hc)]
  exact hx inner hi

end Gives

end Condition

/-! ## Inserted rows -/

theorem insertedPairings_gives : ∀ as : List Assignment, Gives (insertedPairings as) []
  | [] => gives_nil
  | ⟨.column _, _⟩ :: rest => .pairing rfl (insertedPairings_gives rest)
  | ⟨.row _, _⟩ :: rest => insertedPairings_gives rest

/-- Apart from the pairings, a row that is as long as the columns yields what its values yield. -/
theorem Expr.rowPairings_filter {columns : List Ident} {row : List Expr} {ns : List Node}
    (hlength : row.length = columns.length) (h : Expr.rowPairings columns row = .ok ns) :
    ∃ ms, Expr.innerConditionsList row = .ok ms ∧ ns.filter Node.isPredicate = ms.filter Node.isPredicate := by
  induction columns generalizing row ns with
  | nil =>
    rw [List.length_eq_zero_iff.1 hlength] at h ⊢
    cases h
    exact ⟨[], rfl, rfl⟩
  | cons c cs ih =>
    -- a column that has no value would end the row early, which is why the lengths have to agree
    obtain ⟨v, vs, rfl⟩ := List.exists_cons_of_length_eq_add_one hlength
    obtain ⟨n, hc, h⟩ := bind_eq_ok.1 h
    obtain ⟨inner, hi, h⟩ := bind_eq_ok.1 h
    obtain ⟨rest, hr, h⟩ := bind_eq_ok.1 h
    cases h
    obtain ⟨ms, hm, heq⟩ := ih (Nat.succ.inj hlength) hr
    refine ⟨inner ++ ms, gather_eq_ok.2 ⟨inner, ms, hi, hm, rfl⟩, ?_⟩
    rw [List.cons_append, List.filter_cons_of_neg (not_isPredicate_of_pairing rfl hc), List.filter_append,
      List.filter_append, heq]

theorem Expr.rowsPairings_filter {columns : List Ident} {rows : List (List Expr)} {ns : List Node}
    (h : Expr.rowsPairings columns rows = .ok ns) :
    ∃ ms, Expr.innerConditionsRows rows = .ok ms ∧ ns.filter Node.isPredicate = ms.filter Node.isPredicate := by
  induction rows generalizing ns with
  | nil =>
    cases h
    exact ⟨[], rfl, rfl⟩
  | cons row rows ih =>
    rw [Expr.rowsPairings_cons] at h
    split at h
    · cases h
    · rename_i hlength
      obtain ⟨xs, ys, hx, hy, rfl⟩ := gather_eq_ok.1 h
      obtain ⟨ms, hm, hfirst⟩ := Expr.rowPairings_filter (by simpa using hlength) hx
      obtain ⟨ks, hk, hrest⟩ := ih hy
      refine ⟨ms ++ ks, gather_eq_ok.2 ⟨ms, ks, hm, hk, rfl⟩, ?_⟩
      rw [List.filter_append, List.filter_append, hfirst, hrest]

/-- Rows that are paired with columns give what their values give. -/
theorem Condition.Gives.rows {columns : List Ident} {rows : List (List Expr)} {ps : List Predicate}
    (hx : Gives (Expr.innerConditionsRows rows) ps) : Gives (Expr.rowsPairings columns rows) ps := by
  intro ns hn
  obtain ⟨ms, hm, heq⟩ := Expr.rowsPairings_filter hn
  rw [heq]
  exact hx ms hm

/-- The query that rows are inserted from gives what its WITH list and its body give, unless its rows are paired. -/
theorem Condition.Gives.source {columns : List Ident} {recursive : Bool} {ctes : List Cte} {body : SetExpr}
    {clauses : List Clause} (hctes : Gives (Cte.conditionsList ctes) (Cte.predicatesList ctes))
    (hbody : Gives body.conditions body.predicates) :
    Gives (Query.sourceConditions columns ⟨recursive, ctes, body, clauses⟩)
      (Query.sourcePredicates columns ⟨recursive, ctes, body, clauses⟩) := by
  cases body with
  | values _ rows =>
    unfold Query.sourceConditions Query.sourcePredicates
    dsimp only
    split
    · exact .passing (.both hctes hbody) _
    · exact .passing (.passing (.rows hbody) _) _
  | _ => exact .passing (.both hctes hbody) _

/-! ## What the collection comes to -/

mutual

theorem Expr.innerConditions_gives : ∀ e : Expr, Gives e.innerConditions e.predicates
  | .ident _ => gives_nil
  | .compound _ => gives_nil
  | .value _ => gives_nil
  | .nested e => Expr.innerConditions_gives e
  | .tuple items => Expr.innerConditionsList_gives items
  | .unary _ e => Expr.innerConditions_gives e
  | .binary l _ r => .both (Expr.innerConditions_gives l) (Expr.innerConditions_gives r)
  | .test e _ _ => Expr.innerConditions_gives e
  | .distinctFrom l _ r => .both (Expr.innerConditions_gives l) (Expr.innerConditions_gives r)
  | .inList e _ items => .both (Expr.innerConditions_gives e) (Expr.innerConditionsList_gives items)
  | .inSubquery e _ q => .both (Query.conditions_gives q) (Expr.innerConditions_gives e)
  | .between e _ low high =>
    .three (Expr.innerConditions_gives e) (Expr.innerConditions_gives low) (Expr.innerConditions_gives high)
  | .pattern e _ _ _ p _ => .both (Expr.innerConditions_gives e) (Expr.innerConditions_gives p)
  | .quantified l _ _ r => .both (Expr.innerConditions_gives l) (Expr.innerConditions_gives r)
  | .cast _ e _ _ => Expr.innerConditions_gives e
  | .case operand branches otherwise =>
    .three (Expr.innerConditionsOption_gives operand) (Branch.innerConditionsList_gives branches)
      (Expr.innerConditionsOption_gives otherwise)
  | .subquery q => Query.conditions_gives q
  | .exists_ _ q => Query.conditions_gives q
  | .call _ _ args _ => (Args.innerConditions_gives args).passing _
  | .form _ _ => gives_passed _

theorem Expr.innerConditionsList_gives : ∀ es : List Expr, Gives (Expr.innerConditionsList es) (Expr.predicatesList es)
  | [] => gives_nil
  | e :: es => .both (Expr.innerConditions_gives e) (Expr.innerConditionsList_gives es)

theorem Expr.innerConditionsOption_gives :
    ∀ e : Option Expr, Gives (Expr.innerConditionsOption e) (Expr.predicatesOption e)
  | none => gives_nil
  | some e => Expr.innerConditions_gives e

theorem Expr.innerConditionsRows_gives :
    ∀ rows : List (List Expr), Gives (Expr.innerConditionsRows rows) (Expr.predicatesRows rows)
  | [] => gives_nil
  | row :: rows => .both (Expr.innerConditionsList_gives row) (Expr.innerConditionsRows_gives rows)

theorem Expr.predicateConditions_gives {p : Position} (hp : p.isPredicate = true) :
    ∀ e : Option Expr, Gives (Expr.predicateConditions p e) (Expr.predicatesAt p e)
  | none => gives_nil
  | some e => .predicate hp (Expr.innerConditions_gives e)

theorem Branch.innerConditions_gives : ∀ b : Branch, Gives b.innerConditions b.predicates
  | ⟨condition, result⟩ => .both (Expr.innerConditions_gives condition) (Expr.innerConditions_gives result)

theorem Branch.innerConditionsList_gives :
    ∀ bs : List Branch, Gives (Branch.innerConditionsList bs) (Branch.predicatesList bs)
  | [] => gives_nil
  | b :: bs => .both (Branch.innerConditions_gives b) (Branch.innerConditionsList_gives bs)

theorem Args.innerConditions_gives : ∀ args : Args, Gives args.innerConditions args.predicates
  | .absent => gives_nil
  | .subquery q => Query.conditions_gives q
  | .list _ items _ => (Arg.innerConditionsList_gives items).passing _

theorem Arg.innerConditions_gives : ∀ a : Arg, Gives a.innerConditions a.predicates
  | .expr e => Expr.innerConditions_gives e
  | .named _ _ e => (Expr.innerConditions_gives e).passing _
  | .star _ => gives_nil
  | .namedStar _ _ _ => gives_passed _

theorem Arg.innerConditionsList_gives : ∀ as : List Arg, Gives (Arg.innerConditionsList as) (Arg.predicatesList as)
  | [] => gives_nil
  | a :: as => .both (Arg.innerConditions_gives a) (Arg.innerConditionsList_gives as)

theorem Query.conditions_gives : ∀ q : Query, Gives q.conditions q.predicates
  | ⟨_, ctes, body, _⟩ => Gives.passing (.both (Cte.conditionsList_gives ctes) (SetExpr.conditions_gives body)) _

theorem Query.sourceConditions_gives (columns : List Ident) :
    ∀ q : Query, Gives (q.sourceConditions columns) (q.sourcePredicates columns)
  | ⟨_, ctes, body, _⟩ => .source (Cte.conditionsList_gives ctes) (SetExpr.conditions_gives body)

theorem Query.sourceConditionsOption_gives (columns : List Ident) :
    ∀ q : Option Query, Gives (Query.sourceConditionsOption columns q) (Query.sourcePredicatesOption columns q)
  | none => gives_nil
  | some q => Query.sourceConditions_gives columns q

theorem Cte.conditions_gives : ∀ c : Cte, Gives c.conditions c.predicates
  | ⟨_, _, q, _⟩ => Query.conditions_gives q

theorem Cte.conditionsList_gives : ∀ cs : List Cte, Gives (Cte.conditionsList cs) (Cte.predicatesList cs)
  | [] => gives_nil
  | c :: cs => .both (Cte.conditions_gives c) (Cte.conditionsList_gives cs)

theorem SetExpr.conditions_gives : ∀ b : SetExpr, Gives b.conditions b.predicates
  | .select s => Select.conditions_gives s
  | .query q => Query.conditions_gives q
  | .operation l _ _ r => .both (SetExpr.conditions_gives l) (SetExpr.conditions_gives r)
  | .values _ rows => Expr.innerConditionsRows_gives rows
  | .table _ => gives_nil
  | .insert i => Insert.conditions_gives i
  | .update u => Update.conditions_gives u
  | .delete _ => gives_passed _

theorem Select.conditions_gives : ∀ s : Select, Gives s.conditions s.predicates
  | ⟨_, _, projection, _, tables, _, selection, _, having, _⟩ => by
    rw [Select.conditions_eq]
    exact Gives.passing (.both (.both (.both (SelectItem.conditionsList_gives projection)
      (TableTree.conditionsList_gives tables)) (Expr.predicateConditions_gives rfl selection))
      (Expr.predicateConditions_gives rfl having)) _

theorem SelectItem.conditions_gives : ∀ i : SelectItem, Gives i.conditions i.predicates
  | .expr e _ => Expr.innerConditions_gives e
  | .wildcard _ _ => gives_passed _

theorem SelectItem.conditionsList_gives :
    ∀ is : List SelectItem, Gives (SelectItem.conditionsList is) (SelectItem.predicatesList is)
  | [] => gives_nil
  | i :: is => .both (SelectItem.conditions_gives i) (SelectItem.conditionsList_gives is)

theorem TableTree.conditions_gives : ∀ t : TableTree, Gives t.conditions t.predicates
  | ⟨relation, joins⟩ => .both (Factor.conditions_gives relation) (Join.conditionsList_gives joins)

theorem TableTree.conditionsList_gives :
    ∀ ts : List TableTree, Gives (TableTree.conditionsList ts) (TableTree.predicatesList ts)
  | [] => gives_nil
  | t :: ts => .both (TableTree.conditions_gives t) (TableTree.conditionsList_gives ts)

theorem Factor.conditions_gives : ∀ f : Factor, Gives f.conditions f.predicates
  | .table _ _ _ _ => gives_passed _
  | .tableCall _ _ _ _ _ => gives_passed _
  | .derived _ q _ => Query.conditions_gives q
  | .nested t _ => TableTree.conditions_gives t
  | .computed _ _ _ => gives_passed _
  | .turned _ _ _ => gives_passed _

theorem Join.conditions_gives : ∀ j : Join, Gives j.conditions j.predicates
  | ⟨_, op, relation, matching, condition, _⟩ => by
    rw [Join.conditions_eq]
    refine .passing (.both (Factor.conditions_gives relation) ?_) _
    split
    · exact Expr.predicateConditions_gives rfl condition
    · exact gives_passed _

theorem Join.conditionsList_gives : ∀ js : List Join, Gives (Join.conditionsList js) (Join.predicatesList js)
  | [] => gives_nil
  | j :: js => .both (Join.conditions_gives j) (Join.conditionsList_gives js)

theorem Assignment.conditions_gives : ∀ a : Assignment, Gives a.conditions a.predicates
  | ⟨_, v⟩ => .pairing rfl (Expr.innerConditions_gives v)

theorem Assignment.conditionsList_gives :
    ∀ as : List Assignment, Gives (Assignment.conditionsList as) (Assignment.predicatesList as)
  | [] => gives_nil
  | a :: as => .both (Assignment.conditions_gives a) (Assignment.conditionsList_gives as)

theorem Insert.conditions_gives : ∀ i : Insert, Gives i.conditions i.predicates
  | ⟨_, _, _, _, columns, _, source, assignments, _, _, _⟩ =>
    Gives.passing (.both (insertedPairings_gives assignments) (Query.sourceConditionsOption_gives columns source)) _

theorem Update.conditions_gives : ∀ u : Update, Gives u.conditions u.predicates
  | ⟨_, table, sources, sourcesFirst, assignments, selection, _⟩ => by
    rw [Update.conditions_eq]
    refine Gives.passing (.both (.both (.both (.both (TableTree.conditions_gives table) ?_)
      (Assignment.conditionsList_gives assignments)) ?_) (Expr.predicateConditions_gives rfl selection)) _
    all_goals split
    · exact TableTree.conditionsList_gives sources
    · exact gives_nil
    · exact gives_nil
    · exact TableTree.conditionsList_gives sources

end

theorem Delete.conditions_gives (d : Delete) : Gives d.conditions d.predicates := by
  obtain ⟨_, _, tables, usingTables, selection, _, _⟩ := d
  rw [Delete.conditions_eq]
  exact Gives.passing (.both (.both (TableTree.conditionsList_gives tables) (TableTree.conditionsList_gives usingTables))
    (Expr.predicateConditions_gives rfl selection)) _

/-- The nodes of predicates are those of the predicates met in a statement, each of them once, in order. -/
theorem Statement.conditions_gives (st : Statement) : Gives st.conditions st.predicates := by
  cases st with
  | query q => exact Query.conditions_gives q
  | insert i => exact Insert.conditions_gives i
  | update u => exact Update.conditions_gives u
  | delete d => exact Delete.conditions_gives d
  | other => exact yields_error

namespace Condition

/-! ## Completeness -/

/-- Every predicate written in the statement has a node of its own, and no node of a predicate is left over. -/
def Complete (ns : List Node) (st : Statement) : Prop :=
  ∃ ps, ps.Perm st.predicates ∧ List.Forall₂ Predicate.Makes ps (ns.filter Node.isPredicate)

/-- As many nodes as predicates are there only if each predicate is met. -/
theorem Complete.isMet {ns : List Node} {st : Statement} (hc : Complete ns st)
    (hmet : List.Forall₂ Predicate.Makes (st.predicates.filter Predicate.isMet) (ns.filter Node.isPredicate)) :
    ∀ p ∈ st.predicates, p.isMet = true := by
  obtain ⟨ps, hperm, hall⟩ := hc
  have hlength : (st.predicates.filter Predicate.isMet).length = st.predicates.length :=
    calc (st.predicates.filter Predicate.isMet).length
      _ = (ns.filter Node.isPredicate).length := hmet.length_eq
      _ = ps.length := hall.length_eq.symm
      _ = st.predicates.length := hperm.length_eq
  exact List.length_filter_eq_length_iff.1 hlength

/-- Among the conditions of a statement, each predicate that is met has its node, once and in order, and these are all
nodes of predicates; so no predicate is lost if and only if each one that is written is met. -/
theorem complete_conditions_iff (st : Statement) (ns : List Node) (h : st.conditions = .ok ns) :
    List.Forall₂ Predicate.Makes (st.predicates.filter Predicate.isMet) (ns.filter Node.isPredicate) ∧
      (Complete ns st ↔ ∀ p ∈ st.predicates, p.isMet = true) := by
  have hmet := Statement.conditions_gives st ns h
  refine ⟨hmet, fun hc => hc.isMet hmet, fun hall => ⟨_, .refl _, ?_⟩⟩
  rwa [List.filter_eq_self.2 hall] at hmet

/-- What `a` is set to in the examples, `(SELECT * FROM u WHERE b)`. -/
def matched : Assignment :=
  ⟨.column [⟨"a", none⟩], .subquery ⟨false, [], .select ⟨false, [], [.wildcard none []], none,
    [⟨.table [⟨"u", none⟩] none ⟨[], false, []⟩ [], []⟩], [], some (.ident ⟨"b", none⟩), [], none, []⟩, []⟩⟩

/-- `UPDATE t SET a = (SELECT * FROM u WHERE b) WHERE c`. -/
theorem complete_conditions_assigned :
    let st : Statement := .update ⟨none, ⟨.table [⟨"t", none⟩] none ⟨[], false, []⟩ [], []⟩, [], false, [matched],
      some (.ident ⟨"c", none⟩), []⟩
    ∃ ns, st.conditions = .ok ns ∧ Complete ns st ∧ (ns.filter Node.isPredicate).map (·.summary.sql) = ["b", "c"] := by
  intro st
  obtain ⟨ns, hn⟩ := exists_eq_ok (x := st.conditions) (by decide +kernel)
  refine ⟨ns, hn, (complete_conditions_iff st ns hn).2.2 (by decide +kernel), ?_⟩
  have hsql : st.conditions.toOption.map (fun ns => (ns.filter Node.isPredicate).map (·.summary.sql)) = some ["b", "c"] := by
    decide +kernel
  rw [hn] at hsql
  exact Option.some.inj hsql

/-- The predicate of a query that INSERT sets a column to is lost. -/
theorem not_complete_conditions_inserted :
    let st : Statement := .insert ⟨none, [], [⟨"t", none⟩], none, [], [], none, [matched], "", [], []⟩
    ∃ ns, st.conditions = .ok ns ∧ ns.filter Node.isPredicate = [] ∧ ¬Complete ns st := by
  intro st
  obtain ⟨ns, hn⟩ := exists_eq_ok (x := st.conditions) (by decide +kernel)
  have hnone : ns.filter Node.isPredicate = [] := by
    have hempty : st.conditions.toOption.map (fun ns => (ns.filter Node.isPredicate).isEmpty) = some true := by
      decide +kernel
    rw [hn] at hempty
    exact List.isEmpty_iff.1 (Option.some.inj hempty)
  refine ⟨ns, hn, hnone, ?_⟩
  rintro ⟨ps, hperm, hall⟩
  rw [hnone] at hall
  cases hall
  exact absurd hperm.length_eq (by decide +kernel)

end Condition

end SqlTemplate
