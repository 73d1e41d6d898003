/-
What an accepted fragment says. A fragment is read after the anchor, and accepted if what was read prints as the anchor
and its joins, or its predicate, alone. Whatever else a SELECT can have prints as further characters, so that nothing
else was read. The conditions of a fragment are classified before it is accepted, with two gaps: those of joins for which
no condition is looked for, and those in parenthesized joins.
-/
import SqlTemplate.Proofs.Merge.Fragment
import SqlTemplate.Proofs.Merge.Layout

namespace SqlTemplate

/-! ## Conditions of joins -/

mutual

/-- The ON expressions of the joins that a relation is made of. -/
def Factor.ons : Factor → List Expr
  | .nested t _ => t.ons
  | _ => []

def TableTree.ons : TableTree → List Expr
  | ⟨relation, joins⟩ => relation.ons ++ Join.onsList joins

def Join.ons : Join → List Expr
  | ⟨_, _, relation, _, condition, _⟩ => relation.ons ++ condition.toList

def Join.onsList : List Join → List Expr
  | [] => []
  | j :: js => j.ons ++ Join.onsList js

end

namespace Merge

open Template (parseSingle)
open Condition (classify)
open Parameter (Piece)
open Parameter.Piece (charsAfter)

/-- The conditions that are classified before joins are accepted. -/
def checkedOns (joins : List Join) : List Expr :=
  joins.filterMap fun j => if j.operator.hasCondition then j.condition else none

/-- The conditions that are not. -/
def uncheckedOns (joins : List Join) : List Expr :=
  joins.flatMap fun j => j.relation.ons ++ if j.operator.hasCondition then [] else j.condition.toList

theorem checkJoins_eq_ok {joins : List Join} :
    checkJoins joins = .ok () ↔ ∀ on ∈ checkedOns joins, ∃ n, classify .joinOn on = .ok n := by
  induction joins with
  | nil => simp [checkJoins, checkedOns]
  | cons j js ih =>
    unfold checkJoins
    rw [checkedOns, List.filterMap_cons]
    cases (if j.operator.hasCondition then j.condition else none) with
    | none => exact ih
    | some on =>
      cases h : classify .joinOn on with
      | error e => simp [h]
      | ok n =>
        simp only [List.forall_mem_cons, h]
        exact ⟨fun hjs => ⟨⟨n, rfl⟩, ih.1 hjs⟩, fun hall => ih.2 hall.2⟩

theorem mem_onsList {joins : List Join} {on : Expr} :
    on ∈ Join.onsList joins ↔ on ∈ checkedOns joins ∨ on ∈ uncheckedOns joins := by
  induction joins with
  | nil => simp [Join.onsList, checkedOns, uncheckedOns]
  | cons j js ih =>
    obtain ⟨isGlobal, operator, relation, matching, condition, constraint⟩ := j
    rw [Join.onsList, Join.ons, List.mem_append, ih]
    cases h : operator.hasCondition <;> cases condition <;>
      simp [checkedOns, uncheckedOns, h, or_assoc, or_left_comm, or_comm]

/-! ## Statements that begin with the anchor -/

def isAnchor : Factor → Bool
  | .table [name] _ _ _ => name == ⟨anchor, none⟩
  | .tableCall [name] _ _ _ _ => name == ⟨anchor, none⟩
  | _ => false

/-- Whether a SELECT takes all columns, and those of the anchor first. -/
def selectsAnchor (s : Select) : Bool :=
  match s.projection, s.tables with
  | [.wildcard none _], t :: _ => isAnchor t.relation
  | _, _ => false

/-- The SELECT that a query begins with. -/
def firstSelect? : SetExpr → Option Select
  | .select s => some s
  | .operation left _ _ _ => firstSelect? left
  | _ => none

/-- Whether a statement begins as the place for a fragment does. -/
def isAnchored : Statement → Bool
  | .query q => (firstSelect? q.body).any selectsAnchor
  | _ => false

theorem exists_of_selectsAnchor {s : Select} (h : selectsAnchor s = true) :
    ∃ options t ts, s.projection = [.wildcard none options] ∧ s.tables = t :: ts ∧ isAnchor t.relation = true := by
  unfold selectsAnchor at h
  split at h
  · rename_i hprojection htables
    exact ⟨_, _, _, hprojection, htables, h⟩
  · cases h

def anchoredSelect (joins : List Join) (selection : Option Expr) : Select where
  tablesFirst := false
  quantifiers := []
  projection := [.wildcard none []]
  into := none
  tables := [⟨.table [⟨anchor, none⟩] none ⟨[], false, []⟩ [], joins⟩]
  beforeWhere := []
  selection := selection
  grouping := []
  having := none
  windows := []

/-- A statement that has nothing but the anchor, these joins and this predicate. Whether a WITH list would be recursive
is left open, as it has none. -/
def SaysOnly (joins : List Join) (selection : Option Expr) (st : Statement) : Prop :=
  ∃ recursive, st = .query ⟨recursive, [], .select (anchoredSelect joins selection), []⟩

/-! ## Lengths of printed pieces -/

/-- How many characters pieces are printed as. -/
def size (xs : List Piece) : Nat := (charsAfter xs).length

theorem size_append (xs ys : List Piece) : size (xs ++ ys) = size xs + size ys := by
  rw [size, charsAfter_append, List.length_append, size, size]

theorem size_word (text : String) (xs : List Piece) : size (word text :: xs) = 1 + text.length + size xs := by
  rw [size, charsAfter_cons, chars_word, List.length_append, List.length_cons, String.length_toList, Nat.add_comm _ 1, size]

theorem size_row (texts : List String) : size (row texts) = (spacedAll texts).length := by
  rw [size, charsAfter_row, String.length_toList]

/-- Each piece is printed as a blank at least. -/
theorem length_le_size (xs : List Piece) : xs.length ≤ size xs := by
  induction xs with
  | nil => exact Nat.zero_le 0
  | cons x xs ih =>
    rw [size, charsAfter_cons, List.length_cons, List.length_append, List.length_cons, ← size]
    omega

theorem eq_nil_of_size {xs : List Piece} (h : size xs = 0) : xs = [] :=
  List.eq_nil_of_length_eq_zero (Nat.le_zero.1 (h ▸ length_le_size xs))

theorem texts_of_size {texts : List String} (h : size (row texts) = 0) : texts = [] := List.map_eq_nil_iff.1 (eq_nil_of_size h)

theorem clauses_of_size {clauses : List Clause} (h : size (row (Clause.printList clauses)) = 0) : clauses = [] := by
  cases clauses with
  | nil => rfl
  | cons c cs => cases texts_of_size h

theorem joins_of_size {joins : List Join} (h : size (row (Join.printList joins)) = 0) : joins = [] := by
  cases joins with
  | nil => rfl
  | cons j js => cases texts_of_size h

theorem ctes_of_size (recursive : Bool) {ctes : List Cte} (h : size (row (printWith recursive ctes)) = 0) : ctes = [] := by
  cases ctes with
  | nil => rfl
  | cons c cs => cases texts_of_size h

theorem expr_of_size (keyword : String) {e : Option Expr} (h : size (guarded keyword (Expr.printOption e)) = 0) : e = none := by
  cases e with
  | none => rfl
  | some e => cases eq_nil_of_size h

theorem size_guarded (keyword : String) (e : Option String) : size (guarded keyword e) = (optionalExpr keyword e).length := by
  rw [size, charsAfter_guarded, String.length_toList]

theorem size_star (options : List Clause) :
    size (shown [(SelectItem.wildcard none options).print]) = 2 + size (row (Clause.printList options)) := by
  have hstar : (SelectItem.wildcard none options).print = "*" ++ spacedAll (Clause.printList options) := rfl
  rw [hstar, size_row, size, charsAfter_shown]
  simp [spaced, Text.commas, Text.join, String.length_toList]
  omega

theorem length_items (texts : List String) : (items texts).length = texts.length := by
  induction texts with
  | nil => rfl
  | cons t ts ih =>
    cases ts with
    | nil => rfl
    | cons u ts => exact congrArg Nat.succ ih

theorem length_le_size_items (t : String) (ts : List String) : 1 + t.length + ts.length ≤ size (items (t :: ts)) := by
  cases ts with
  | nil => exact Nat.le_of_eq (size_word t []).symm
  | cons u ts =>
    have h := length_le_size (items (u :: ts))
    rw [length_items, List.length_cons] at h
    simp only [items, size, charsAfter_cons, Piece.chars, List.length_append, List.length_cons, String.length_toList,
      if_true, List.length_nil] at h ⊢
    omega

theorem trees_of_printList {ts : List TableTree} (h : TableTree.printList ts = []) : ts = [] := by
  cases ts with
  | nil => rfl
  | cons t ts => cases h

/-- Relations are printed in full, and a blank at least for each after the first. -/
theorem length_le_size_trees (t : TableTree) (ts : List TableTree) :
    1 + (t.relation.print.length + (spacedAll (Join.printList t.joins)).length) + (TableTree.printList ts).length ≤
      size (items (TableTree.printList (t :: ts))) := by
  obtain ⟨relation, joins⟩ := t
  rw [← String.length_append]
  exact length_le_size_items _ _

/-- A SELECT is as long as its parts, in whichever order they are printed. -/
theorem length_print_select (recursive : Bool) (ctes : List Cte) (s : Select) (clauses : List Clause)
    (ht : s.tables ≠ []) (hp : s.projection ≠ []) :
    (Query.print ⟨recursive, ctes, .select s, clauses⟩).length + 1 =
      12 + size (shown (SelectItem.printList s.projection)) + size (items (TableTree.printList s.tables)) +
        size (guarded "WHERE" (Expr.printOption s.selection)) +
        (size (row (printWith recursive ctes)) + size (row (Clause.printList s.quantifiers)) + size (row s.into.toList) +
          size (row (Clause.printList s.beforeWhere)) + size (row (Clause.printList s.grouping)) +
          size (guarded "HAVING" (Expr.printOption s.having)) + size (row (Clause.printList s.windows)) +
          size (row (Clause.printList clauses))) := by
  have hprint : size (selectLayout recursive ctes s clauses).pieces =
      (Query.print ⟨recursive, ctes, .select s, clauses⟩).length + 1 := by
    rw [size, charsAfter_selectLayout recursive ctes s clauses ht, List.length_cons, String.length_toList]
  have hwords : "SELECT".length = 6 ∧ "FROM".length = 4 := by decide
  have hprojection : (SelectItem.printList s.projection).isEmpty = false := by
    cases hs : s.projection with
    | nil => exact absurd hs hp
    | cons i is => rfl
  rw [← hprint, selectLayout]
  cases s.tablesFirst <;>
    simp only [Layout.pieces, size_append, size_word, hprojection, Bool.false_eq_true, if_false, if_true] <;> omega

/-! ## What is printed besides the anchor -/

theorem print_anchor : ObjectName.print [⟨anchor, none⟩] = anchor := rfl

/-- Whatever stands with the anchor makes it longer. -/
theorem isAnchor_length {f : Factor} (h : isAnchor f = true) :
    anchor.length ≤ f.print.length ∧
      (f.print.length ≤ anchor.length → f = .table [⟨anchor, none⟩] none ⟨[], false, []⟩ []) := by
  unfold isAnchor at h
  split at h
  · rename_i name a details clauses
    obtain ⟨partitions, ordinality, indexHints⟩ := details
    cases eq_of_beq h
    simp only [Factor.print, print_anchor, String.length_append, ← size_row]
    refine ⟨by omega, fun hle => ?_⟩
    have hc : clauses = [] := clauses_of_size (by omega)
    have hi : indexHints = [] := texts_of_size (by omega)
    have hp : partitions = [] := by
      cases partitions with
      | nil => rfl
      | cons i is =>
        have hword : 0 < "PARTITION (".length := by decide
        simp [printPartitions] at hle
        omega
    have ho : ordinality = false := by
      cases ordinality with
      | false => rfl
      | true =>
        have hword : 0 < " WITH ORDINALITY".length := by decide
        simp only [Form.optional, if_true] at hle
        omega
    have ha : a = none := by
      cases a with
      | none => rfl
      | some a =>
        have hword : 0 < " AS ".length := by decide
        simp only [asAlias, String.length_append] at hle
        omega
    rw [hc, hi, hp, ho, ha]
  · -- a call has its parentheses in addition
    rename_i name args a details clauses
    cases eq_of_beq h
    simp only [Factor.print, print_anchor, String.length_append]
    have hparen : "(".length = 1 := rfl
    exact ⟨by omega, fun hle => absurd hle (by omega)⟩
  · cases h

/-- A SELECT that begins with the anchor is longer than its joins and its predicate after the anchor, unless it has
nothing else. -/
theorem eq_anchoredSelect {recursive : Bool} {ctes : List Cte} {s : Select} {clauses : List Clause} {t : TableTree}
    {ts : List TableTree} (hs : selectsAnchor s = true) (ht : s.tables = t :: ts)
    (hlength : (Query.print ⟨recursive, ctes, .select s, clauses⟩).length ≤
      ("SELECT * FROM " ++ anchor).length + (spacedAll (Join.printList t.joins)).length +
        (optionalExpr "WHERE" (Expr.printOption s.selection)).length) :
    ctes = [] ∧ clauses = [] ∧ s = { anchoredSelect t.joins s.selection with tablesFirst := s.tablesFirst } := by
  obtain ⟨options, t', ts', hprojection, htables, hanchor⟩ := exists_of_selectsAnchor hs
  cases ht.symm.trans htables
  obtain ⟨hle, heq⟩ := isAnchor_length hanchor
  have hprint := length_print_select recursive ctes s clauses (by simp [ht]) (by simp [hprojection])
  have hstar := size_star options
  have htrees := length_le_size_trees t ts
  have hbase : ("SELECT * FROM " ++ anchor).length = 14 + anchor.length := String.length_append ..
  rw [ht, hprojection, size_guarded "WHERE"] at hprint
  simp only [SelectItem.printList] at hprint
  -- the anchor, the joins and the predicate take up the whole length, so that every other part has none
  have hrelation := heq (by omega)
  have hts : ts = [] := trees_of_printList (List.eq_nil_of_length_eq_zero (by omega))
  have hoptions : options = [] := clauses_of_size (by omega)
  have hquantifiers : s.quantifiers = [] := clauses_of_size (by omega)
  have hbefore : s.beforeWhere = [] := clauses_of_size (by omega)
  have hgrouping : s.grouping = [] := clauses_of_size (by omega)
  have hwindows : s.windows = [] := clauses_of_size (by omega)
  have hinto : s.into = none := Option.toList_eq_nil_iff.1 (texts_of_size (by omega))
  have hhaving : s.having = none := expr_of_size "HAVING" (by omega)
  refine ⟨ctes_of_size recursive (by omega), clauses_of_size (by omega), ?_⟩
  obtain ⟨relation, joins⟩ := t
  obtain ⟨tablesFirst, quantifiers, projection, into, tables, beforeWhere, selection, grouping, having, windows⟩ := s
  cases ht
  cases hrelation
  cases hts
  cases hoptions
  cases hquantifiers
  cases hprojection
  cases hbefore
  cases hgrouping
  cases hwindows
  cases hinto
  cases hhaving
  rfl

theorem print_of_saysOnly {joins : List Join} {selection : Option Expr} {st : Statement}
    (h : SaysOnly joins selection st) :
    st.print = "SELECT * FROM " ++ anchor ++ spacedAll (Join.printList joins) ++
      optionalExpr "WHERE" (Expr.printOption selection) := by
  obtain ⟨recursive, rfl⟩ := h
  have hrelation : (Factor.table [⟨anchor, none⟩] none ⟨[], false, []⟩ []).print = anchor := rfl
  have hplace : "SELECT" ++ spaced "*" ++ " FROM " = "SELECT * FROM " := by decide
  have hhaving : optionalExpr "HAVING" none = "" := rfl
  rw [Statement.print, Query.print, SetExpr.print, anchoredSelect, Select.print.eq_def]
  simp [hrelation, ← hplace, hhaving, String.append_assoc, SelectItem.printList, SelectItem.print, printStar,
    TableTree.printList, TableTree.print, Clause.printList, optionalList, Form.optional, Expr.printOption, Text.commas, Text.join]

/-- A SELECT that begins with the anchor has nothing but its joins and its predicate if it is printed as a SELECT and is
not longer than these. -/
theorem saysOnly_of_length {recursive : Bool} {ctes : List Cte} {s : Select} {clauses : List Clause} {t : TableTree}
    {ts : List TableTree} {text : String} (hs : selectsAnchor s = true) (ht : s.tables = t :: ts)
    (hprint : Query.print ⟨recursive, ctes, .select s, clauses⟩ = "SELECT * FROM " ++ text)
    (hlength : ("SELECT * FROM " ++ text).length ≤
      ("SELECT * FROM " ++ anchor).length + (spacedAll (Join.printList t.joins)).length +
        (optionalExpr "WHERE" (Expr.printOption s.selection)).length) :
    SaysOnly t.joins s.selection (.query ⟨recursive, ctes, .select s, clauses⟩) := by
  rw [← hprint] at hlength
  obtain ⟨rfl, rfl, heq⟩ := eq_anchoredSelect hs ht hlength
  have hchars := charsAfter_selectLayout recursive [] s [] (by simp [ht])
  rw [hprint] at hchars
  cases hfirst : s.tablesFirst with
  | false =>
    rw [hfirst] at heq
    exact ⟨recursive, by rw [heq]; rfl⟩
  | true =>
    -- a SELECT with its tables first is as long, but begins with FROM
    rw [selectLayout, hfirst] at hchars
    simp [Layout.pieces, printWith, row] at hchars

/-! ## Fragments in their places -/

/-- The statement that a fragment of joins is read in. -/
def joinPlace (c : Config) (fragment : String) : String := "SELECT * FROM " ++ anchor ++ " " ++ fragmentText c fragment

/-- The statement that a predicate is read in. -/
def predicatePlace (c : Config) (fragment : String) : String :=
  "SELECT * FROM " ++ anchor ++ " WHERE " ++ fragmentText c fragment

theorem optionalExpr_where (e : Expr) : optionalExpr "WHERE" (Expr.printOption (some e)) = " WHERE " ++ e.print :=
  congrArg (· ++ e.print) (by decide : " " ++ "WHERE" ++ " " = " WHERE ")

/-- A statement prints as the anchor and its joins if and only if it has nothing else. -/
theorem print_joins_iff {st : Statement} {joins : List Join} (h : isAnchored st = true) (hne : joins ≠ []) :
    anchoredJoins st = joins ∧ st.print = "SELECT * FROM " ++ anchor ++ spacedAll (Join.printList joins) ↔
      SaysOnly joins none st := by
  constructor
  · rintro ⟨hjoins, hprint⟩
    unfold anchoredJoins at hjoins
    split at hjoins
    · rename_i s _
      split at hjoins
      · rename_i ht
        subst hjoins
        rw [String.append_assoc] at hprint
        have honly := saysOnly_of_length h ht hprint (by
          rw [← String.append_assoc, String.length_append]
          exact Nat.le_add_right _ _)
        -- a predicate would be printed after the joins, and nothing is
        have hlength := congrArg String.length (hprint.symm.trans (print_of_saysOnly honly))
        simp only [String.length_append, ← size_guarded] at hlength
        have hnone : s.selection = none := expr_of_size "WHERE" (by omega)
        rwa [hnone] at honly
      · exact absurd hjoins.symm hne
    · exact absurd hjoins.symm hne
  · rintro ⟨recursive, rfl⟩
    refine ⟨rfl, ?_⟩
    rw [print_of_saysOnly ⟨recursive, rfl⟩]
    exact String.append_empty

/-- A statement prints as the anchor and its predicate if and only if it has nothing else. -/
theorem print_predicate_iff {st : Statement} {e : Expr} (h : isAnchored st = true) :
    anchoredPredicate? st = some e ∧ st.print = "SELECT * FROM " ++ anchor ++ " WHERE " ++ e.print ↔
      SaysOnly [] (some e) st := by
  rw [String.append_assoc, ← optionalExpr_where]
  constructor
  · rintro ⟨hpredicate, hprint⟩
    unfold anchoredPredicate? at hpredicate
    split at hpredicate
    · obtain ⟨-, t, ts, -, ht, -⟩ := exists_of_selectsAnchor h
      rw [← hpredicate, String.append_assoc] at hprint
      have honly := saysOnly_of_length h ht hprint (by simp only [String.length_append]; omega)
      have hlength := congrArg String.length (hprint.symm.trans (print_of_saysOnly honly))
      simp only [String.length_append, ← size_row] at hlength
      have hnil : t.joins = [] := joins_of_size (by omega)
      rwa [hnil, hpredicate] at honly
    · cases hpredicate
  · rintro ⟨recursive, rfl⟩
    exact ⟨rfl, print_of_saysOnly ⟨recursive, rfl⟩⟩

variable {c : Config} {fragment : String} {st : Statement}

theorem parseFragment_of_parseSingle {kind anchored : String} (h : parseSingle c anchored = .ok st) :
    parseFragment c kind anchored = .ok st := by
  rw [parseFragment, h]

theorem joinFragment_of_not_saysOnly (hst : parseSingle c (joinPlace c fragment) = .ok st) (h : isAnchored st = true)
    (hno : ∀ joins, joins ≠ [] → ¬SaysOnly joins none st) :
    joinFragment c fragment = .error (notOnlyJoins (fragmentText c fragment)) := by
  refine bind_eq_error.2 (.inr ⟨st, parseFragment_of_parseSingle hst, ?_⟩)
  simp only
  split
  · rfl
  · rename_i hone
    simp only [Bool.or_eq_true, not_or, List.isEmpty_iff, bne_iff_ne, ne_eq, not_not] at hone
    exact absurd ((print_joins_iff h hone.1).1 ⟨rfl, hone.2⟩) (hno _ hone.1)

theorem joinFragment_eq_ok_iff (hst : parseSingle c (joinPlace c fragment) = .ok st) (h : isAnchored st = true)
    (joins : List Join) :
    (∃ n, joinFragment c fragment = .ok ⟨joins, n⟩) ↔
      joins ≠ [] ∧ SaysOnly joins none st ∧ ∀ on ∈ checkedOns joins, ∃ n, classify .joinOn on = .ok n := by
  constructor
  · rintro ⟨n, hok⟩
    obtain ⟨st', hparse, hok⟩ := bind_eq_ok.1 hok
    cases hst.symm.trans (parseFragment_eq_ok hparse)
    simp only at hok
    split at hok
    · cases hok
    · rename_i hone
      obtain ⟨⟨⟩, hcheck, hok⟩ := bind_eq_ok.1 hok
      obtain ⟨n, -, hok⟩ := bind_eq_ok.1 hok
      cases hok
      simp only [Bool.or_eq_true, not_or, List.isEmpty_iff, bne_iff_ne, ne_eq, not_not] at hone
      exact ⟨hone.1, (print_joins_iff h hone.1).1 ⟨rfl, hone.2⟩, checkJoins_eq_ok.1 hcheck⟩
  · rintro ⟨hne, honly, hcheck⟩
    obtain ⟨hjoins, hprint⟩ := (print_joins_iff h hne).2 honly
    obtain ⟨n, hn⟩ := exists_countMarkers_join hst
    refine ⟨n, bind_eq_ok.2 ⟨st, parseFragment_of_parseSingle hst, ?_⟩⟩
    simp only [hjoins, hprint, hne, List.isEmpty_iff, bne_self_eq_false, Bool.or_false, if_false]
    exact bind_eq_ok.2 ⟨(), checkJoins_eq_ok.2 hcheck, bind_eq_ok.2 ⟨n, hn, rfl⟩⟩

theorem predicateFragment_of_not_saysOnly (hst : parseSingle c (predicatePlace c fragment) = .ok st)
    (h : isAnchored st = true) (hno : ∀ e, ¬SaysOnly [] (some e) st) :
    predicateFragment c fragment = .error (notOnePredicate (fragmentText c fragment)) := by
  refine bind_eq_error.2 (.inr ⟨st, parseFragment_of_parseSingle hst, ?_⟩)
  cases hp : anchoredPredicate? st with
  | none => rfl
  | some e =>
    have hprint : st.print ≠ "SELECT * FROM " ++ anchor ++ " WHERE " ++ e.print :=
      fun hprint => hno e ((print_predicate_iff h).1 ⟨hp, hprint⟩)
    simp only [bne_iff_ne.2 hprint, if_true]
    rfl

theorem predicateFragment_eq_ok_iff (hst : parseSingle c (predicatePlace c fragment) = .ok st)
    (h : isAnchored st = true) (e : Expr) :
    (∃ n, predicateFragment c fragment = .ok ⟨e, n⟩) ↔ SaysOnly [] (some e) st ∧ ∃ n, classify .where_ e = .ok n := by
  constructor
  · rintro ⟨n, hok⟩
    obtain ⟨st', hparse, hok⟩ := bind_eq_ok.1 hok
    cases hst.symm.trans (parseFragment_eq_ok hparse)
    cases hp : anchoredPredicate? st with
    | none => rw [hp] at hok; cases hok
    | some e' =>
      simp only [hp] at hok
      split at hok
      · cases hok
      · rename_i hprint
        cases hclassify : classify .where_ e' with
        | error err => rw [hclassify] at hok; cases hok
        | ok node =>
          rw [hclassify] at hok
          obtain ⟨n, -, hok⟩ := bind_eq_ok.1 hok
          cases hok
          rw [bne_iff_ne, ne_eq, not_not] at hprint
          exact ⟨(print_predicate_iff h).1 ⟨hp, hprint⟩, node, hclassify⟩
  · rintro ⟨honly, node, hclassify⟩
    obtain ⟨hp, hprint⟩ := (print_predicate_iff h).2 honly
    obtain ⟨n, hn⟩ := exists_countMarkers_predicate hst
    refine ⟨n, bind_eq_ok.2 ⟨st, parseFragment_of_parseSingle hst, ?_⟩⟩
    simp only [hp, hprint, bne_self_eq_false, hclassify]
    exact bind_eq_ok.2 ⟨n, hn, rfl⟩

/-- A fragment that is read after the anchor is accepted if and only if the statement read has nothing but the anchor and
one join at least, or one predicate, and the conditions of the joins that are looked at, or the predicate, can be
classified. If the statement has anything else the fragment is refused for it. All conditions of accepted joins can be
classified if and only if those can be that are not looked at. -/
theorem fragments_accepted (c : Config) (fragment : String) :
    (∀ st, parseSingle c (joinPlace c fragment) = .ok st → isAnchored st = true →
      (∀ joins, (∃ n, joinFragment c fragment = .ok ⟨joins, n⟩) ↔
        joins ≠ [] ∧ SaysOnly joins none st ∧ ∀ on ∈ checkedOns joins, ∃ n, classify .joinOn on = .ok n) ∧
      ((∀ joins, joins ≠ [] → ¬SaysOnly joins none st) →
        joinFragment c fragment = .error (notOnlyJoins (fragmentText c fragment))) ∧
      ∀ joins n, joinFragment c fragment = .ok ⟨joins, n⟩ →
        ((∀ on ∈ Join.onsList joins, ∃ n, classify .joinOn on = .ok n) ↔
          ∀ on ∈ uncheckedOns joins, ∃ n, classify .joinOn on = .ok n)) ∧
    (∀ st, parseSingle c (predicatePlace c fragment) = .ok st → isAnchored st = true →
      (∀ e, (∃ n, predicateFragment c fragment = .ok ⟨e, n⟩) ↔
        SaysOnly [] (some e) st ∧ ∃ n, classify .where_ e = .ok n) ∧
      ((∀ e, ¬SaysOnly [] (some e) st) →
        predicateFragment c fragment = .error (notOnePredicate (fragmentText c fragment)))) := by
  refine ⟨fun st hst h => ⟨joinFragment_eq_ok_iff hst h, joinFragment_of_not_saysOnly hst h, fun joins n hok => ?_⟩,
    fun st hst h => ⟨predicateFragment_eq_ok_iff hst h, predicateFragment_of_not_saysOnly hst h⟩⟩
  obtain ⟨-, -, hchecked⟩ := (joinFragment_eq_ok_iff hst h joins).1 ⟨n, hok⟩
  exact ⟨fun hall on hon => hall on (mem_onsList.2 (.inr hon)),
    fun hunchecked on hon => (mem_onsList.1 hon).elim (hchecked on) (hunchecked on)⟩

/-- A join is accepted, and all that its statement says; a predicate with a LIMIT is not. -/
theorem fragments_accepted_join :
    (∃ st joins n, parseSingle ⟨.mysql, true⟩ (joinPlace ⟨.mysql, true⟩ "JOIN u ON u.a = 1") = .ok st ∧
      joinFragment ⟨.mysql, true⟩ "JOIN u ON u.a = 1" = .ok ⟨joins, n⟩ ∧ SaysOnly joins none st ∧
      ∀ on ∈ Join.onsList joins, ∃ n, classify .joinOn on = .ok n) ∧
    predicateFragment ⟨.mysql, true⟩ "a = 1 LIMIT 1" = .error (notOnePredicate "a = 1 LIMIT 1") := by
  constructor
  · have hread : (parseSingle ⟨.mysql, true⟩ (joinPlace ⟨.mysql, true⟩ "JOIN u ON u.a = 1")).toOption.map isAnchored = some true ∧
        (joinFragment ⟨.mysql, true⟩ "JOIN u ON u.a = 1").toOption.map (fun js => (uncheckedOns js.content).isEmpty) =
          some true := by decide +kernel
    obtain ⟨st, hst, hanchored⟩ := exists_of_toOption_map hread.1
    obtain ⟨⟨joins, n⟩, hok, hunchecked⟩ := exists_of_toOption_map hread.2
    obtain ⟨haccepted, -, hall⟩ := (fragments_accepted _ _).1 st hst hanchored
    obtain ⟨-, honly, -⟩ := (haccepted joins).1 ⟨n, hok⟩
    refine ⟨st, joins, n, hst, hok, honly, (hall joins n hok).2 ?_⟩
    rw [List.isEmpty_iff.1 hunchecked]
    exact List.forall_mem_nil _
  · obtain ⟨st, hst, hread⟩ := exists_of_toOption_map
      (f := fun st => (isAnchored st, (anchoredPredicate? st).map Expr.print, st.print))
      (b := (true, some "a = 1", "SELECT * FROM " ++ anchor ++ " WHERE a = 1 LIMIT 1"))
      (x := parseSingle ⟨.mysql, true⟩ (predicatePlace ⟨.mysql, true⟩ "a = 1 LIMIT 1")) (by decide +kernel)
    obtain ⟨hanchored, hread⟩ := Prod.mk.inj hread
    obtain ⟨hpredicate, hprint⟩ := Prod.mk.inj hread
    refine ((fragments_accepted _ _).2 st hst hanchored).2 fun e honly => ?_
    obtain ⟨he, hplain⟩ := (print_predicate_iff hanchored).2 honly
    rw [he] at hpredicate
    rw [hprint, Option.some.inj hpredicate] at hplain
    exact absurd hplain (by decide)

/-- `STRAIGHT_JOIN u ON t.x + u.x` is accepted, though the sum is no condition. -/
theorem not_fragments_accepted_straight :
    ∃ st joins n, parseSingle ⟨.mysql, true⟩ (joinPlace ⟨.mysql, true⟩ "STRAIGHT_JOIN u ON t.x + u.x") = .ok st ∧
      isAnchored st = true ∧ joinFragment ⟨.mysql, true⟩ "STRAIGHT_JOIN u ON t.x + u.x" = .ok ⟨joins, n⟩ ∧
      ∃ on ∈ Join.onsList joins, ¬∃ n, classify .joinOn on = .ok n := by
  have hread : (parseSingle ⟨.mysql, true⟩ (joinPlace ⟨.mysql, true⟩ "STRAIGHT_JOIN u ON t.x + u.x")).toOption.map isAnchored =
        some true ∧
      (joinFragment ⟨.mysql, true⟩ "STRAIGHT_JOIN u ON t.x + u.x").toOption.map
        (fun js => (Join.onsList js.content).any fun on => (classify .joinOn on).toOption.isNone) = some true := by
    decide +kernel
  obtain ⟨st, hst, hanchored⟩ := exists_of_toOption_map hread.1
  obtain ⟨⟨joins, n⟩, hok, hons⟩ := exists_of_toOption_map hread.2
  obtain ⟨on, hon, hnone⟩ := List.any_eq_true.1 hons
  refine ⟨st, joins, n, hst, hanchored, hok, on, hon, ?_⟩
  rintro ⟨m, hm⟩
  rw [hm] at hnone
  cases hnone

end Merge

end SqlTemplate
