/-
The collection of conditions as gathering: what a SELECT, an UPDATE, a DELETE, a join or an inserted row yields is
what its parts yield, one after the other.
-/
import SqlTemplate.Condition.Collect
import SqlTemplate.Proofs.Tree.Gather

namespace SqlTemplate

theorem Select.conditions_eq (s : Select) :
    s.conditions = gather (gather (gather (SelectItem.conditionsList s.projection) (TableTree.conditionsList s.tables))
      (Expr.predicateConditions .where_ s.selection)) (Expr.predicateConditions .having s.having) := by
  obtain ⟨_, _, projection, _, tables, _, selection, _, having, _⟩ := s
  rw [Select.conditions, gather_four]

theorem Update.conditions_eq (u : Update) :
    u.conditions = gather (gather (gather (gather u.table.conditions
      (if u.sourcesFirst then TableTree.conditionsList u.sources else .ok [])) (Assignment.conditionsList u.assignments))
      (if u.sourcesFirst then .ok [] else TableTree.conditionsList u.sources))
      (Expr.predicateConditions .where_ u.selection) := by
  obtain ⟨_, table, sources, sourcesFirst, assignments, selection, _⟩ := u
  rw [Update.conditions]
  cases table.conditions with
  | error e => rfl
  | ok ts =>
    cases sourcesFirst with
    | true =>
      cases TableTree.conditionsList sources with
      | error e => rfl
      | ok ss => cases Assignment.conditionsList assignments <;> rfl
    | false =>
      cases Assignment.conditionsList assignments with
      | error e => rfl
      | ok as => cases TableTree.conditionsList sources <;> rfl

theorem Delete.conditions_eq (d : Delete) :
    d.conditions = gather (gather (TableTree.conditionsList d.tables) (TableTree.conditionsList d.usingTables))
      (Expr.predicateConditions .where_ d.selection) := by
  rw [Delete.conditions, gather_three]

theorem Join.conditions_eq (j : Join) :
    j.conditions = gather j.relation.conditions
      (if j.operator.hasCondition then Expr.predicateConditions .joinOn j.condition else .ok []) := by
  obtain ⟨_, op, relation, _, condition, _⟩ := j
  unfold Join.conditions gather
  cases op.hasCondition <;> rfl

theorem Join.conditionsList_append (js ks : List Join) :
    Join.conditionsList (js ++ ks) = gather (Join.conditionsList js) (Join.conditionsList ks) := by
  induction js with
  | nil => exact (nil_gather _).symm
  | cons j js ih =>
    show gather j.conditions (Join.conditionsList (js ++ ks)) = _
    rw [ih, ← gather_assoc]
    rfl

theorem Expr.rowsPairings_cons (columns : List Ident) (row : List Expr) (rows : List (List Expr)) :
    Expr.rowsPairings columns (row :: rows) =
      if row.length != columns.length then .error (rowMismatch columns.length row.length)
      else gather (Expr.rowPairings columns row) (Expr.rowsPairings columns rows) := by
  rw [Expr.rowsPairings]
  split <;> rfl

end SqlTemplate
