/-
The kind of a query against its main body: the body that is left when all parentheses around it are taken off, whatever
WITH lists stand before them. The conditions and the tables of a query are those of its main body and of these WITH
lists; the kind looks at the body as it stands, and knows INSERT and UPDATE only. So it is that of the main body if and
only if this one just reads rows, or is an INSERT or UPDATE without parentheses; every other query is called a SELECT.
-/
import SqlTemplate.Analysis
import SqlTemplate.Proofs.Condition.Collect

namespace SqlTemplate

open Table (Scope)

/-! ## Main bodies -/

mutual

/-- The body with no parentheses around it. -/
def SetExpr.mainBody : SetExpr → SetExpr
  | .query q => q.mainBody
  | b => b

def Query.mainBody : Query → SetExpr
  | ⟨_, _, body, _⟩ => body.mainBody

end

mutual

/-- The WITH lists inside the parentheses around the main body. -/
def SetExpr.ctesAround : SetExpr → List Cte
  | .query q => q.ctesAround
  | _ => []

/-- All WITH queries that are declared around the main body, from the outside in. -/
def Query.ctesAround : Query → List Cte
  | ⟨_, ctes, body, _⟩ => ctes ++ body.ctesAround

end

/-- What a body does to rows; one that changes none is a SELECT. -/
def SetExpr.effect : SetExpr → Kind
  | .insert _ => .insert
  | .update _ => .update
  | .delete _ => .delete
  | _ => .select

theorem SetExpr.mainBody_eq_self {b : SetExpr} (h : ∀ q, b ≠ .query q) : b.mainBody = b := by
  cases b with
  | query q => exact absurd rfl (h q)
  | _ => rfl

theorem SetExpr.ctesAround_eq_nil {b : SetExpr} (h : ∀ q, b ≠ .query q) : b.ctesAround = [] := by
  cases b with
  | query q => exact absurd rfl (h q)
  | _ => rfl

/-- Parentheses are taken off one pair after the other. -/
theorem Query.parenthesesInduction {P : Query → Prop}
    (parenthesized : ∀ recursive ctes q clauses, P q → P ⟨recursive, ctes, .query q, clauses⟩)
    (bare : ∀ recursive ctes body clauses, (∀ q, body ≠ .query q) → P ⟨recursive, ctes, body, clauses⟩) : ∀ q, P q
  | ⟨_, _, .query q, _⟩ => parenthesized _ _ q _ (Query.parenthesesInduction parenthesized bare q)
  | ⟨_, _, .select _, _⟩ => bare _ _ _ _ nofun
  | ⟨_, _, .operation _ _ _ _, _⟩ => bare _ _ _ _ nofun
  | ⟨_, _, .values _ _, _⟩ => bare _ _ _ _ nofun
  | ⟨_, _, .table _, _⟩ => bare _ _ _ _ nofun
  | ⟨_, _, .insert _, _⟩ => bare _ _ _ _ nofun
  | ⟨_, _, .update _, _⟩ => bare _ _ _ _ nofun
  | ⟨_, _, .delete _, _⟩ => bare _ _ _ _ nofun

theorem Query.mainBody_ne_query (q q' : Query) : q.mainBody ≠ .query q' := by
  induction q using Query.parenthesesInduction with
  | parenthesized _ _ _ _ ih => exact ih
  | bare _ _ body _ h =>
    show body.mainBody ≠ .query q'
    rw [SetExpr.mainBody_eq_self h]
    exact h q'

/-! ## Conditions and tables -/

theorem Cte.conditionsList_append (cs ds : List Cte) :
    Cte.conditionsList (cs ++ ds) = gather (Cte.conditionsList cs) (Cte.conditionsList ds) := by
  induction cs with
  | nil => exact (nil_gather _).symm
  | cons c cs ih =>
    show gather c.conditions (Cte.conditionsList (cs ++ ds)) = _
    rw [ih, ← gather_assoc]
    rfl

/-- The conditions of a query are those of the WITH lists around its main body, and then those of the main body. -/
theorem Query.conditions_mainBody (q : Query) :
    q.conditions = gather (Cte.conditionsList q.ctesAround) q.mainBody.conditions := by
  induction q using Query.parenthesesInduction with
  | parenthesized _ ctes q _ ih =>
    show gather (Cte.conditionsList ctes) q.conditions = gather (Cte.conditionsList (ctes ++ q.ctesAround)) q.mainBody.conditions
    rw [ih, Cte.conditionsList_append, gather_assoc]
  | bare _ ctes body _ h =>
    show gather (Cte.conditionsList ctes) body.conditions =
      gather (Cte.conditionsList (ctes ++ body.ctesAround)) body.mainBody.conditions
    rw [SetExpr.mainBody_eq_self h, SetExpr.ctesAround_eq_nil h, List.append_nil]

theorem Table.Scope.declaring_append (s : Scope) (cs ds : List Cte) :
    s.declaring (cs ++ ds) = (s.declaring cs).declaring ds := by
  simp [Scope.declaring]

/-- The tables of a query are those of its main body, in the scope of all WITH lists around it, and then the tables of
these lists, from the inside out. -/
theorem Query.references_mainBody (s : Scope) (q : Query) :
    ∃ ctes, q.references s = gather (q.mainBody.references (s.declaring q.ctesAround)) ctes := by
  induction q using Query.parenthesesInduction generalizing s with
  | parenthesized _ ctes q _ ih =>
    obtain ⟨inner, hinner⟩ := ih (s.declaring ctes)
    refine ⟨gather inner (Cte.referencesList (s.declaring ctes).nested ctes), ?_⟩
    show gather (q.references (s.declaring ctes)) _ = gather (q.mainBody.references (s.declaring (ctes ++ q.ctesAround))) _
    rw [hinner, Scope.declaring_append, gather_assoc]
  | bare _ ctes body _ h =>
    refine ⟨Cte.referencesList (s.declaring ctes).nested ctes, ?_⟩
    show gather (body.references (s.declaring ctes)) _ = gather (body.mainBody.references (s.declaring (ctes ++ body.ctesAround))) _
    rw [SetExpr.mainBody_eq_self h, SetExpr.ctesAround_eq_nil h, List.append_nil]

/-! ## Kinds -/

/-- The kind of a body as it stands knows of no DELETE, and takes off no parentheses. -/
theorem Kind.ofBody_eq_effect_iff (b : SetExpr) :
    Kind.ofBody b = b.mainBody.effect ↔ b.mainBody.effect = .select ∨ b.mainBody.effect ≠ .delete ∧ b = b.mainBody := by
  cases b with
  | query q =>
    have hne : SetExpr.query q ≠ q.mainBody := fun h => q.mainBody_ne_query q h.symm
    show Kind.select = q.mainBody.effect ↔ _
    constructor
    · intro h
      exact .inl h.symm
    · rintro (h | ⟨-, h⟩)
      · exact h.symm
      · exact absurd h hne
  | insert i => exact iff_of_true rfl (.inr ⟨nofun, rfl⟩)
  | update u => exact iff_of_true rfl (.inr ⟨nofun, rfl⟩)
  | delete d =>
    refine iff_of_false nofun ?_
    rintro (h | ⟨h, -⟩)
    · cases h
    · exact h rfl
  | _ => exact iff_of_true rfl (.inl rfl)

theorem Kind.ofBody_eq_effect_or_select (b : SetExpr) : Kind.ofBody b = b.mainBody.effect ∨ Kind.ofBody b = .select := by
  cases b <;> first | exact .inl rfl | exact .inr rfl

/-- The kind of a query is that of its main body if and only if the main body changes no rows, or is an INSERT or UPDATE
that stands in no parentheses; otherwise it is SELECT. Conditions and tables are always those of the main body, with
those of the WITH lists around it. -/
theorem kind_eq_effect_iff (q : Query) (tokens : List Lexeme) :
    ((Statement.query q).kind tokens = .ok q.mainBody.effect ↔
      q.mainBody.effect = .select ∨ q.mainBody.effect ≠ .delete ∧ q.body = q.mainBody) ∧
    ((Statement.query q).kind tokens = .ok q.mainBody.effect ∨ (Statement.query q).kind tokens = .ok .select) ∧
    (Statement.query q).conditions = gather (Cte.conditionsList q.ctesAround) q.mainBody.conditions ∧
    ∃ ctes, (Statement.query q).references = gather (q.mainBody.references (Scope.outer.declaring q.ctesAround)) ctes := by
  obtain ⟨recursive, ctes, body, clauses⟩ := q
  refine ⟨?_, ?_, Query.conditions_mainBody _, Query.references_mainBody .outer _⟩
  · show Except.ok (Kind.ofBody body) = Except.ok body.mainBody.effect ↔ _
    rw [Except.ok.injEq]
    exact Kind.ofBody_eq_effect_iff body
  · exact (Kind.ofBody_eq_effect_or_select body).imp (congrArg Except.ok) (congrArg Except.ok)

/-- What the main body does to rows, if the statement is a query. -/
def Statement.effect? : Statement → Option Kind
  | .query q => some q.mainBody.effect
  | _ => none

theorem Statement.exists_query {st : Statement} {k : Kind} (h : st.effect? = some k) :
    ∃ q, st = .query q ∧ q.mainBody.effect = k := by
  cases st with
  | query q => exact ⟨q, rfl, Option.some.inj h⟩
  | _ => cases h

/-- `(UPDATE t SET a = 1)` and `WITH x AS (SELECT 1) DELETE FROM t` are called SELECT, though the conditions of the
first one say that it assigns a column. -/
theorem not_kind_eq_effect :
    let assignment := "(UPDATE t SET a = 1)"
    let deletion := "WITH x AS (SELECT 1) DELETE FROM t"
    (∃ parsed q, Template.parse .standard assignment = .ok parsed ∧ parsed.statement = .query q ∧
      q.mainBody.effect = .update ∧ Template.kind .standard assignment = .ok .select ∧
      (Template.conditions .standard assignment).toOption.map (·.map (·.summary.position)) = some [.updateSet]) ∧
    ∃ parsed q, Template.parse .standard deletion = .ok parsed ∧ parsed.statement = .query q ∧
      q.mainBody.effect = .delete ∧ Template.kind .standard deletion = .ok .select := by
  intro assignment deletion
  obtain ⟨updated, hupdated, hupdate⟩ := exists_of_toOption_map (f := fun p => p.statement.effect?) (b := some .update)
    (x := Template.parse .standard assignment) (by decide +kernel)
  obtain ⟨deleted, hdeleted, hdelete⟩ := exists_of_toOption_map (f := fun p => p.statement.effect?) (b := some .delete)
    (x := Template.parse .standard deletion) (by decide +kernel)
  obtain ⟨q, hq, hqeffect⟩ := Statement.exists_query hupdate
  obtain ⟨r, hr, hreffect⟩ := Statement.exists_query hdelete
  exact ⟨⟨updated, q, hupdated, hq, hqeffect, eq_ok_of_toOption (by decide +kernel), by decide +kernel⟩,
    ⟨deleted, r, hdeleted, hr, hreffect, eq_ok_of_toOption (by decide +kernel)⟩⟩

end SqlTemplate
