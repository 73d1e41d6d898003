/-
The printed text of a statement as a row of pieces with blanks between them: those up to the place where
joins are added, those from there to WHERE, and those after WHERE. A merge adds pieces at the two places
and leaves the others as they are.
-/
import SqlTemplate.Proofs.Merge.Basic
import SqlTemplate.Proofs.Parameter.Pieces

namespace SqlTemplate.Merge

open Parameter (Piece)
open Parameter.Piece (charsAfter charsOf)

/-! ## Pieces of lists -/

def word (text : String) : Piece := ⟨text, false⟩

/-- Texts that are printed one after the other. -/
def row (texts : List String) : List Piece := texts.map word

/-- Texts that are printed with commas between them. -/
def items : List String → List Piece
  | [] => []
  | [t] => [word t]
  | t :: u :: ts => ⟨t, true⟩ :: items (u :: ts)

@[simp] theorem charsAfter_append (xs ys : List Piece) : charsAfter (xs ++ ys) = charsAfter xs ++ charsAfter ys :=
  List.flatMap_append

@[simp] theorem charsAfter_cons (x : Piece) (xs : List Piece) : charsAfter (x :: xs) = ' ' :: x.chars ++ charsAfter xs := rfl

@[simp] theorem chars_word (text : String) : (word text).chars = text.toList := List.append_nil _

@[simp] theorem spacedAll_nil : spacedAll [] = "" := rfl

@[simp] theorem spacedAll_cons (t : String) (ts : List String) : spacedAll (t :: ts) = " " ++ t ++ spacedAll ts := by
  simp [spacedAll]

@[simp] theorem spacedAll_append (ts us : List String) : spacedAll (ts ++ us) = spacedAll ts ++ spacedAll us := by
  simp [spacedAll]

@[simp] theorem charsAfter_row (texts : List String) : charsAfter (row texts) = (spacedAll texts).toList := by
  induction texts with
  | nil => rfl
  | cons t ts ih =>
    rw [row, List.map_cons, charsAfter_cons, chars_word, spacedAll_cons, String.toList_append, String.toList_append]
    exact congrArg ((' ' :: t.toList) ++ ·) ih

theorem charsAfter_items (t : String) (ts : List String) :
    charsAfter (items (t :: ts)) = ' ' :: (Text.commas (t :: ts)).toList := by
  induction ts generalizing t with
  | nil => simp [items, chars_word, Text.commas, Text.join, charsAfter]
  | cons u ts ih =>
    have h : Text.commas (t :: u :: ts) = t ++ ", " ++ Text.commas (u :: ts) := String.intercalate_cons_cons
    rw [items, charsAfter_cons, ih, h, String.toList_append, String.toList_append]
    simp [Piece.chars]

/-- Items that are left out if there is nothing to print. -/
def shown (texts : List String) : List Piece := if (Text.commas texts).isEmpty then [] else items texts

/-- A keyword and the list after it, if there is one. -/
def listed (keyword : String) (texts : List String) : List Piece :=
  if texts.isEmpty then [] else word keyword :: items texts

/-- A keyword and the expression after it, if there is one. -/
def guarded (keyword : String) : Option String → List Piece
  | none => []
  | some text => [word keyword, word text]

@[simp] theorem charsAfter_shown (texts : List String) : charsAfter (shown texts) = (spaced (Text.commas texts)).toList := by
  unfold shown spaced
  split
  · rfl
  · cases texts with
    | nil => rename_i h; exact absurd rfl h
    | cons t ts => rw [charsAfter_items, String.toList_append]; rfl

@[simp] theorem charsAfter_listed (keyword : String) (texts : List String) :
    charsAfter (listed keyword texts) = (optionalList keyword texts).toList := by
  cases texts with
  | nil => rfl
  | cons t ts =>
    rw [listed, optionalList, if_neg (by simp), if_neg (by simp), charsAfter_cons, chars_word, charsAfter_items]
    simp

@[simp] theorem charsAfter_guarded (keyword : String) (e : Option String) :
    charsAfter (guarded keyword e) = (optionalExpr keyword e).toList := by
  cases e with
  | none => rfl
  | some text => simp [guarded, optionalExpr, charsAfter, chars_word]

@[simp] theorem charsAfter_nil : charsAfter [] = [] := rfl

theorem charsOf_of_charsAfter {xs : List Piece} {cs : List Char} (h : charsAfter xs = ' ' :: cs) : cs = charsOf xs := by
  cases xs with
  | nil => cases h
  | cons x xs => exact (List.cons.inj h).2.symm

/-! ## Layouts -/

/-- The pieces of a statement: `opening` up to where a DELETE names its target, `head` up to where joins are added,
`middle` up to WHERE, `tail` after it. -/
structure Layout where
  opening : List Piece
  head : List Piece
  middle : List Piece
  selection : Option Expr
  tail : List Piece

def Layout.pieces (l : Layout) : List Piece :=
  l.opening ++ (l.head ++ (l.middle ++ (guarded "WHERE" (Expr.printOption l.selection) ++ l.tail)))

def selectLayout (recursive : Bool) (ctes : List Cte) (s : Select) (clauses : List Clause) : Layout :=
  let trees := items (TableTree.printList s.tables)
  let projection := SelectItem.printList s.projection
  let chosen := word "SELECT" :: (row (Clause.printList s.quantifiers) ++ shown projection)
  let rest := row s.into.toList
  let before := row (Clause.printList s.beforeWhere)
  let tail := row (Clause.printList s.grouping) ++ (guarded "HAVING" (Expr.printOption s.having) ++
    (row (Clause.printList s.windows) ++ row (Clause.printList clauses)))
  if s.tablesFirst then
    ⟨row (printWith recursive ctes), word "FROM" :: trees,
      (if projection.isEmpty then [] else chosen) ++ (rest ++ before), s.selection, tail⟩
  else ⟨row (printWith recursive ctes), chosen ++ (rest ++ word "FROM" :: trees), before, s.selection, tail⟩

def updateLayout (u : Update) : Layout :=
  let target := row ("UPDATE" :: (u.conflict.toList ++ [u.table.print]))
  let sets := listed "SET" (Assignment.printList u.assignments)
  let sources := listed "FROM" (TableTree.printList u.sources)
  let tail := listed "RETURNING" (SelectItem.printList u.returning)
  if u.sources.isEmpty then ⟨[], target, sets, u.selection, tail⟩
  else if u.sourcesFirst then ⟨[], target ++ sources, sets, u.selection, tail⟩
  else ⟨[], target ++ (sets ++ sources), [], u.selection, tail⟩

def deleteLayout (d : Delete) : Layout :=
  ⟨[word "DELETE"],
    items (d.targets.map ObjectName.print) ++ (row (if d.fromKeyword then ["FROM"] else []) ++
      (items (TableTree.printList d.tables) ++ listed "USING" (TableTree.printList d.usingTables))),
    [], d.selection, listed "RETURNING" (SelectItem.printList d.returning) ++ row (Clause.printList d.clauses)⟩

def layout : Statement → Layout
  | .query ⟨recursive, ctes, .select s, clauses⟩ => selectLayout recursive ctes s clauses
  | .update u => updateLayout u
  | .delete d => deleteLayout d
  | _ => ⟨[], [], [], none, []⟩

/-- Whether a statement that takes additions has tables that print as something. -/
def namesTables : Statement → Bool
  | .query ⟨_, _, .select s, _⟩ => !s.tables.isEmpty
  | .update _ => true
  | .delete d => !(Text.commas (TableTree.printList d.tables)).isEmpty
  | _ => false

/-! ## The printed text -/

theorem printList_cons_of_ne_nil {trees : List TableTree} (h : trees ≠ []) :
    ∃ t ts, TableTree.printList trees = t :: ts := by
  cases trees with
  | nil => exact absurd rfl h
  | cons t ts => exact ⟨t.print, TableTree.printList ts, by rw [TableTree.printList]⟩

theorem toList_printWith (recursive : Bool) (ctes : List Cte) (cs : List Char) :
    (spacedAll (printWith recursive ctes)).toList ++ ' ' :: cs =
      ' ' :: ((if ctes.isEmpty then ""
        else "WITH " ++ Form.optional recursive "RECURSIVE " ++ Text.commas (Cte.printList ctes) ++ " ").toList ++ cs) := by
  cases ctes with
  | nil => rfl
  | cons c ctes => simp [printWith]

theorem charsAfter_selectLayout (recursive : Bool) (ctes : List Cte) (s : Select) (clauses : List Clause)
    (h : s.tables ≠ []) : charsAfter (selectLayout recursive ctes s clauses).pieces =
      ' ' :: (Query.print ⟨recursive, ctes, .select s, clauses⟩).toList := by
  obtain ⟨t, ts, ht⟩ := printList_cons_of_ne_nil h
  clear h
  obtain ⟨tablesFirst, quantifiers, projection, into, tables, beforeWhere, selection, grouping, having, windows⟩ := s
  simp only at ht
  have hinto : (spacedAll into.toList).toList = (into.elim "" (" " ++ ·)).toList := by cases into <;> simp
  rw [Query.print, SetExpr.print, Select.print.eq_def]
  cases tablesFirst with
  | false =>
    simp only [selectLayout, Layout.pieces, ht]
    simp [charsAfter_items, Form.optional, optionalList, toList_printWith, hinto]
    cases into <;> rfl
  | true =>
    simp only [selectLayout, Layout.pieces, ht]
    cases hp : SelectItem.printList projection with
    | nil =>
      simp [charsAfter_items, Form.optional, optionalList, toList_printWith, hinto]
      cases into <;> rfl
    | cons i is =>
      simp [charsAfter_items, Form.optional, optionalList, toList_printWith, hinto]
      cases into <;> rfl

theorem charsAfter_updateLayout (u : Update) : charsAfter (updateLayout u).pieces = ' ' :: u.print.toList := by
  obtain ⟨conflict, table, sources, sourcesFirst, assignments, selection, returning⟩ := u
  have htarget : ∀ cs : List Char, (spacedAll conflict.toList).toList ++ ' ' :: cs =
      ' ' :: ((conflict.elim "" (· ++ " ")).toList ++ cs) := by
    intro cs
    cases conflict <;> simp
  rw [Update.print.eq_def]
  cases sources with
  | nil =>
    simp only [updateLayout, Layout.pieces]
    simp [TableTree.printList, Form.optional, optionalList, htarget]
    cases conflict <;> rfl
  | cons t ts =>
    cases sourcesFirst with
    | false =>
      simp only [updateLayout, Layout.pieces]
      simp [Form.optional, htarget]
      cases conflict <;> rfl
    | true =>
      simp only [updateLayout, Layout.pieces]
      simp [Form.optional, htarget]
      cases conflict <;> rfl

theorem charsAfter_deleteLayout (d : Delete) (h : (Text.commas (TableTree.printList d.tables)).isEmpty = false) :
    charsAfter (deleteLayout d).pieces = ' ' :: d.print.toList := by
  obtain ⟨targets, fromKeyword, tables, usingTables, selection, returning, clauses⟩ := d
  simp only at h
  rw [Delete.print.eq_def]
  simp only [deleteLayout, Layout.pieces, spaced, h]
  have htargets : charsAfter (items (targets.map ObjectName.print)) =
      (if targets.isEmpty then "" else " " ++ Text.commas (targets.map ObjectName.print)).toList := by
    cases targets with
    | nil => rfl
    | cons t ts => simp [charsAfter_items]
  have htables : charsAfter (items (TableTree.printList tables)) = (" " ++ Text.commas (TableTree.printList tables)).toList := by
    cases hp : TableTree.printList tables with
    | nil => rw [hp] at h; cases h
    | cons t ts => simp [charsAfter_items]
  cases fromKeyword <;> simp [htargets, htables, Form.optional]

theorem charsAfter_layout {st : Statement} (h : namesTables st = true) :
    charsAfter (layout st).pieces = ' ' :: st.print.toList := by
  unfold namesTables at h
  split at h
  · exact charsAfter_selectLayout _ _ _ _ (by simpa using h)
  · exact charsAfter_updateLayout _
  · exact charsAfter_deleteLayout _ (by simpa using h)
  · cases h

/-- A statement prints as the pieces of its layout. -/
theorem print_eq_charsOf {st : Statement} (h : namesTables st = true) :
    st.print.toList = charsOf (layout st).pieces :=
  charsOf_of_charsAfter (charsAfter_layout h)

/-! ## Additions -/

theorem printList_append (js ks : List Join) : Join.printList (js ++ ks) = Join.printList js ++ Join.printList ks := by
  induction js with
  | nil => rfl
  | cons j js ih => rw [List.cons_append, Join.printList, ih, Join.printList, List.cons_append]

theorem print_appendJoins (js : List Join) (t : TableTree) :
    (appendJoins js t).print = t.print ++ spacedAll (Join.printList js) := by
  obtain ⟨relation, joins⟩ := t
  rw [appendJoins, TableTree.print, printList_append, spacedAll_append, TableTree.print, String.append_assoc]

theorem charsAfter_changeLast (js : List Join) {trees : List TableTree} (h : trees ≠ []) :
    charsAfter (items (TableTree.printList (changeLast (appendJoins js) trees))) =
      charsAfter (items (TableTree.printList trees)) ++ charsAfter (row (Join.printList js)) := by
  induction trees with
  | nil => exact absurd rfl h
  | cons t trees ih =>
    cases trees with
    | nil => simp [changeLast, TableTree.printList, items, print_appendJoins]
    | cons u trees =>
      have hne : changeLast (appendJoins js) (u :: trees) ≠ [] := by cases trees <;> simp [changeLast]
      obtain ⟨v, vs, hv⟩ := printList_cons_of_ne_nil hne
      have ih := ih (by simp)
      rw [hv] at ih
      rw [changeLast, TableTree.printList, hv, items, charsAfter_cons, ih]
      · simp [TableTree.printList, items]
      · simp

/-- The pieces that name the table to delete from. -/
def Slot.target : Slot → List Piece
  | .nameTarget name => [word name.print]
  | _ => []

/-- WHERE with an additional predicate. -/
def conjoined (existing : Option Expr) : Option Expr → List Piece
  | none => guarded "WHERE" (Expr.printOption existing)
  | some p =>
    match existing with
    | none => row ["WHERE", p.print]
    | some e => row ["WHERE", (parenthesize e).print, "AND", (parenthesize p).print]

/-- The pieces of a layout with a target, joins and a predicate added. -/
def Layout.merged (l : Layout) (target : List Piece) (joins : List String) (predicate : Option Expr) : List Piece :=
  l.opening ++ (target ++ (l.head ++ (row joins ++ (l.middle ++ (conjoined l.selection predicate ++ l.tail)))))

/-- What a statement's layout becomes when `joins` are added at a place with the given target. -/
structure Joined (l l' : Layout) (target : List Piece) (joins : List String) : Prop where
  opening : l'.opening = l.opening
  head : charsAfter l'.head = charsAfter target ++ charsAfter l.head ++ charsAfter (row joins)
  middle : l'.middle = l.middle
  selection : l'.selection = l.selection
  tail : l'.tail = l.tail

theorem joined_select (recursive : Bool) (ctes : List Cte) (s : Select) (clauses : List Clause) (js : List Join)
    (h : s.tables ≠ []) :
    Joined (selectLayout recursive ctes s clauses)
      (selectLayout recursive ctes { s with tables := changeLast (appendJoins js) s.tables } clauses) []
      (Join.printList js) := by
  unfold selectLayout
  cases hs : s.tablesFirst <;>
    exact ⟨rfl, by simp [charsAfter_changeLast js h], rfl, rfl, rfl⟩

theorem charsAfter_listed_changeLast (keyword : String) (js : List Join) {trees : List TableTree} (h : trees ≠ []) :
    charsAfter (listed keyword (TableTree.printList (changeLast (appendJoins js) trees))) =
      charsAfter (listed keyword (TableTree.printList trees)) ++ charsAfter (row (Join.printList js)) := by
  obtain ⟨t, ts, ht⟩ := printList_cons_of_ne_nil h
  obtain ⟨u, us, hu⟩ := printList_cons_of_ne_nil (changeLast_ne_nil (f := appendJoins js) h)
  have hc := charsAfter_changeLast js h
  rw [ht, hu] at hc ⊢
  simp only [listed, List.isEmpty_cons, Bool.false_eq_true, if_false]
  rw [charsAfter_cons, charsAfter_cons, hc, List.append_assoc]

theorem joined_update (u : Update) (js : List Join) (slot : Slot) :
    ∃ u', addJoins js slot (.update u) = .update u' ∧ Joined (updateLayout u) (updateLayout u') [] (Join.printList js) := by
  by_cases hs : u.sources = []
  · refine ⟨{ u with table := appendJoins js u.table }, by simp [addJoins, hs], ?_⟩
    simp only [updateLayout, hs, List.isEmpty_nil, if_true]
    exact ⟨rfl, by simp [print_appendJoins], rfl, rfl, rfl⟩
  · refine ⟨{ u with sources := changeLast (appendJoins js) u.sources }, by simp [addJoins, hs], ?_⟩
    have hs' := changeLast_ne_nil (f := appendJoins js) hs
    have hl := charsAfter_listed_changeLast "FROM" js hs
    cases hf : u.sourcesFirst <;>
      simp only [updateLayout, hf, List.isEmpty_iff, hs, hs', if_false, if_true, Bool.false_eq_true]
    · exact ⟨rfl, by simp [-charsAfter_listed, hl], rfl, rfl, rfl⟩
    · exact ⟨rfl, by simp [-charsAfter_listed, hl], rfl, rfl, rfl⟩

theorem isEmpty_commas_changeLast (js : List Join) {trees : List TableTree} (h : trees ≠ [])
    (he : (Text.commas (TableTree.printList trees)).isEmpty = false) :
    (Text.commas (TableTree.printList (changeLast (appendJoins js) trees))).isEmpty = false := by
  obtain ⟨t, ts, ht⟩ := printList_cons_of_ne_nil h
  obtain ⟨u, us, hu⟩ := printList_cons_of_ne_nil (changeLast_ne_nil (f := appendJoins js) h)
  have hc := charsAfter_changeLast js h
  rw [ht, hu, charsAfter_items, charsAfter_items, List.cons_append, List.cons.injEq] at hc
  rw [ht] at he
  rw [hu]
  rw [Bool.eq_false_iff, Ne, String.isEmpty_iff, ← String.toList_eq_nil_iff] at he ⊢
  rw [hc.2]
  exact List.append_ne_nil_of_left_ne_nil he _

theorem joined_delete_append (d : Delete) (js : List Join) (h : d.tables ≠ []) :
    ∃ d', addJoins js .append (.delete d) = .delete d' ∧
      Joined (deleteLayout d) (deleteLayout d') [] (Join.printList js) ∧
      (namesTables (.delete d) = true → namesTables (.delete d') = true) := by
  unfold addJoins
  by_cases hu : d.usingTables = []
  · refine ⟨_, if_pos (by simp [hu]), ⟨rfl, ?_, rfl, rfl, rfl⟩, fun hn => ?_⟩
    · simp [deleteLayout, charsAfter_changeLast js h, hu, TableTree.printList, optionalList]
    · rw [namesTables, Bool.not_eq_true'] at hn ⊢
      exact isEmpty_commas_changeLast js h hn
  · refine ⟨_, if_neg (by simp [hu]), ⟨rfl, ?_, rfl, rfl, rfl⟩, id⟩
    simp [-charsAfter_listed, deleteLayout, charsAfter_listed_changeLast "USING" js hu]

theorem joined_delete (d : Delete) (js : List Join) {slot : Slot} (h : d.tables ≠ [])
    (hs : ∀ name, slot = .nameTarget name → d.targets = []) :
    ∃ d', addJoins js slot (.delete d) = .delete d' ∧
      Joined (deleteLayout d) (deleteLayout d') slot.target (Join.printList js) ∧
      (namesTables (.delete d) = true → namesTables (.delete d') = true) := by
  cases slot with
  | append => exact joined_delete_append d js h
  | refuse why => exact joined_delete_append d js h
  | nameTarget name =>
    -- the statement takes joins as if it had named its target before
    obtain ⟨d', hd, hl, hn⟩ := joined_delete_append { d with targets := d.targets ++ [name] } js h
    refine ⟨d', hd, ⟨hl.opening, ?_, hl.middle, hl.selection, hl.tail⟩, hn⟩
    rw [hl.head, Slot.target]
    simp [deleteLayout, hs name rfl, items]

/-- Adding a predicate changes WHERE alone. -/
theorem layout_addPredicate (p : Expr) {st : Statement} (h : namesTables st = true) :
    layout (addPredicate p st) = { layout st with selection := some (conjoin (layout st).selection p) } ∧
      namesTables (addPredicate p st) = true := by
  unfold namesTables at h
  split at h
  · rename_i recursive ctes s clauses
    refine ⟨?_, h⟩
    simp only [addPredicate, layout, selectLayout]
    cases s.tablesFirst <;> rfl
  · rename_i u
    refine ⟨?_, rfl⟩
    simp only [addPredicate, layout, updateLayout]
    split
    · rfl
    · split <;> rfl
  · exact ⟨rfl, h⟩
  · cases h

theorem charsAfter_conjoined (existing : Option Expr) (p : Expr) :
    charsAfter (conjoined existing (some p)) = charsAfter (guarded "WHERE" (Expr.printOption (some (conjoin existing p)))) := by
  cases existing with
  | none => simp [conjoined, conjoin, optionalExpr, Expr.printOption]
  | some e => simp [conjoined, conjoin, optionalExpr, Expr.printOption, Expr.print, BinaryOp.print]

end SqlTemplate.Merge
