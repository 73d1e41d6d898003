/-
Analyses that enter an expression for the queries nested in it and for nothing else: what they yield is what they yield
of these queries, one after the other.
-/
import SqlTemplate.Condition.Collect
import SqlTemplate.Proofs.Tree.Gather

namespace SqlTemplate

variable {α : Type} {f : Query → Except Error (List α)} {x y z : Except Error (List α)} {es fs gs : List Expr}
  {e : Expr} {q : Query}

/-- What `f` yields of one query after the other. -/
def Query.each (f : Query → Except Error (List α)) : List Query → Except Error (List α)
  | [] => .ok []
  | q :: qs => gather (f q) (Query.each f qs)

theorem Query.each_append (f : Query → Except Error (List α)) (ps qs : List Query) :
    Query.each f (ps ++ qs) = gather (Query.each f ps) (Query.each f qs) := by
  induction ps with
  | nil => exact (nil_gather _).symm
  | cons p ps ih => rw [List.cons_append, Query.each, ih, ← gather_assoc, Query.each]

/-- `x` is what `f` yields of the queries that stand directly in one of the expressions. -/
def Enters (f : Query → Except Error (List α)) (x : Except Error (List α)) (es : List Expr) : Prop :=
  x = Query.each f (es.flatMap Expr.directSubqueries)

namespace Enters

theorem nil : Enters f (.ok []) [] := rfl

theorem both (hx : Enters f x es) (hy : Enters f y fs) : Enters f (gather x y) (es ++ fs) := by
  rw [Enters, List.flatMap_append, Query.each_append, ← hx, ← hy]

theorem three (hx : Enters f x es) (hy : Enters f y fs) (hz : Enters f z gs) :
    Enters f (do return (← x) ++ (← y) ++ (← z)) (es ++ fs ++ gs) := by
  rw [gather_three]
  exact both (both hx hy) hz

/-- An expression in which no query stands directly. -/
theorem through (he : e.directSubqueries = []) (hx : Enters f x es) : Enters f x (e :: es) := by
  rw [Enters, List.flatMap_cons, he]
  exact hx

theorem query (he : e.directSubqueries = [q]) (hx : Enters f x es) : Enters f (gather (f q) x) (e :: es) := by
  rw [Enters, List.flatMap_cons, he, hx]
  rfl

/-- An expression that is a query, or is given one. -/
theorem whole (he : e.directSubqueries = [q]) : Enters f (f q) [e] := by
  have h := query (f := f) he nil
  rwa [gather_nil] at h

end Enters

/-! ## Conditions -/

mutual

theorem Expr.innerConditions_enters : ∀ e : Expr, Enters Query.conditions e.innerConditions e.subterms
  | .ident _ => .through rfl .nil
  | .compound _ => .through rfl .nil
  | .value _ => .through rfl .nil
  | .nested e => .through rfl e.innerConditions_enters
  | .tuple items => .through rfl (Expr.innerConditionsList_enters items)
  | .unary _ e => .through rfl e.innerConditions_enters
  | .binary l _ r => .through rfl (.both l.innerConditions_enters r.innerConditions_enters)
  | .test e _ _ => .through rfl e.innerConditions_enters
  | .distinctFrom l _ r => .through rfl (.both l.innerConditions_enters r.innerConditions_enters)
  | .inList e _ items => .through rfl (.both e.innerConditions_enters (Expr.innerConditionsList_enters items))
  | .inSubquery e _ _ => .query rfl e.innerConditions_enters
  | .between e _ low high =>
    .through rfl (.three e.innerConditions_enters low.innerConditions_enters high.innerConditions_enters)
  | .pattern e _ _ _ p _ => .through rfl (.both e.innerConditions_enters p.innerConditions_enters)
  | .quantified l _ _ r => .through rfl (.both l.innerConditions_enters r.innerConditions_enters)
  | .cast _ e _ _ => .through rfl e.innerConditions_enters
  | .case operand branches otherwise =>
    .through rfl (.three (Expr.innerConditionsOption_enters operand) (Branch.innerConditionsList_enters branches)
      (Expr.innerConditionsOption_enters otherwise))
  | .subquery _ => .whole rfl
  | .exists_ _ _ => .whole rfl
  | .call _ _ .absent _ => .through rfl .nil
  | .call _ _ (.subquery _) _ => .whole rfl
  | .call _ _ (.list _ items _) _ => .through rfl (Arg.innerConditionsList_enters items)
  | .form _ _ => .through rfl .nil

theorem Expr.innerConditionsList_enters :
    ∀ es : List Expr, Enters Query.conditions (Expr.innerConditionsList es) (Expr.descendantsList es)
  | [] => .nil
  | e :: es => .both e.innerConditions_enters (Expr.innerConditionsList_enters es)

theorem Expr.innerConditionsOption_enters :
    ∀ e : Option Expr, Enters Query.conditions (Expr.innerConditionsOption e) (Expr.descendantsOption e)
  | none => .nil
  | some e => e.innerConditions_enters

theorem Branch.innerConditions_enters : ∀ b : Branch, Enters Query.conditions b.innerConditions b.descendants
  | ⟨condition, result⟩ => .both condition.innerConditions_enters result.innerConditions_enters

theorem Branch.innerConditionsList_enters :
    ∀ bs : List Branch, Enters Query.conditions (Branch.innerConditionsList bs) (Branch.descendantsList bs)
  | [] => .nil
  | b :: bs => .both b.innerConditions_enters (Branch.innerConditionsList_enters bs)

theorem Arg.innerConditions_enters : ∀ a : Arg, Enters Query.conditions a.innerConditions a.descendants
  | .expr e => e.innerConditions_enters
  | .named _ _ e => e.innerConditions_enters
  | .star _ => .nil
  | .namedStar _ _ _ => .nil

theorem Arg.innerConditionsList_enters :
    ∀ as : List Arg, Enters Query.conditions (Arg.innerConditionsList as) (Arg.descendantsList as)
  | [] => .nil
  | a :: as => .both a.innerConditions_enters (Arg.innerConditionsList_enters as)

end

/-- The conditions in an expression are those of the queries nested in it. -/
theorem Expr.innerConditions_eq (e : Expr) : e.innerConditions = Query.each Query.conditions e.nestedQueries :=
  e.innerConditions_enters

end SqlTemplate
