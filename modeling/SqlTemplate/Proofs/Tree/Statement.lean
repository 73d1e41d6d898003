/-
Plain statements: SELECT, UPDATE and DELETE over named tables, joined with ON or by CROSS JOIN, whose expressions are
all plain. They have FROM, SET and WHERE, and USING in a DELETE, and no other clause: no WITH, DISTINCT, GROUP BY,
HAVING, WINDOW, ORDER BY, LIMIT or RETURNING, no queries combined by UNION and the like, no derived tables, no tables in
parentheses and no USING in a join. They print as texts that are read as `Statement.tokens`.
-/
import SqlTemplate.Proofs.Tree.Plain

namespace SqlTemplate

open Lexer (Reads identToken nameTokens isPlainIdent)

/-! ## Tokens -/

/-- A keyword and what stands after it, if there is anything. -/
def keyed (k : String) (tokens : Option (List Token)) : List Token := (tokens.map (kw k :: ·)).getD []

/-- A keyword and a list after it, if the list is not empty. -/
def listed (k : String) (items : List (List Token)) : List Token := if items.isEmpty then [] else kw k :: commaTokens items

def aliasTokens (name : Option Ident) : List Token := keyed "AS" (name.map fun i => [identToken i])

def Factor.tokens : Factor → List Token
  | .table name aliasName _ _ => nameTokens name ++ aliasTokens (aliasName.map TableAlias.name)
  | _ => []

/-- The keywords of a join. -/
def JoinOperator.words : JoinOperator → List String
  | .join => ["JOIN"]
  | .inner => ["INNER", "JOIN"]
  | .left => ["LEFT", "JOIN"]
  | .leftOuter => ["LEFT", "OUTER", "JOIN"]
  | .right => ["RIGHT", "JOIN"]
  | .rightOuter => ["RIGHT", "OUTER", "JOIN"]
  | .fullOuter => ["FULL", "JOIN"]
  | .cross => ["CROSS", "JOIN"]
  | _ => []

def Join.tokens (j : Join) : List Token :=
  j.operator.words.map kw ++ (j.relation.tokens ++ keyed "ON" (j.condition.map Expr.tokens))

def TableTree.tokens (t : TableTree) : List Token := t.relation.tokens ++ t.joins.flatMap Join.tokens

def SelectItem.tokens : SelectItem → List Token
  | .expr e aliasName => e.tokens ++ aliasTokens aliasName
  | .wildcard _ _ => [.symbol "*"]

def Select.tokens (s : Select) : List Token :=
  kw "SELECT" :: (commaTokens (s.projection.map SelectItem.tokens) ++
    (listed "FROM" (s.tables.map TableTree.tokens) ++ keyed "WHERE" (s.selection.map Expr.tokens)))

def Assignment.tokens (a : Assignment) : List Token :=
  (match a.target with | .column name => nameTokens name | .row _ => []) ++ .symbol "=" :: a.value.tokens

def Update.tokens (u : Update) : List Token :=
  let sources := listed "FROM" (u.sources.map TableTree.tokens)
  kw "UPDATE" :: (u.table.tokens ++ ((if u.sourcesFirst then sources else []) ++
    kw "SET" :: (commaTokens (u.assignments.map Assignment.tokens) ++ ((if u.sourcesFirst then [] else sources) ++
      keyed "WHERE" (u.selection.map Expr.tokens)))))

def Delete.tokens (d : Delete) : List Token :=
  kw "DELETE" :: (commaTokens (d.targets.map nameTokens) ++ kw "FROM" :: (commaTokens (d.tables.map TableTree.tokens) ++
    (listed "USING" (d.usingTables.map TableTree.tokens) ++ keyed "WHERE" (d.selection.map Expr.tokens))))

/-- The tokens that a plain statement is read as. -/
def Statement.tokens : Statement → List Token
  | .query ⟨_, _, .select s, _⟩ => s.tokens
  | .update u => u.tokens
  | .delete d => d.tokens
  | _ => []

/-! ## Plain statements -/

/-- How many levels of rules there are for an expression of a statement. -/
def exprLevels : Nat := 48

/-- Plain expressions that do not nest too deep for a statement. -/
def Expr.fits (d : Dialect) (e : Expr) : Bool := e.isPlain d && decide (e.levels ≤ exprLevels)

def isPlainName (d : Dialect) (name : ObjectName) : Bool := !name.isEmpty && name.all (isPlainIdent d)

def Factor.isPlain (d : Dialect) : Factor → Bool
  | .table name aliasName details clauses =>
    isPlainName d name && (aliasName.all fun a => a.columns.isEmpty && isPlainIdent d a.name) && details == ⟨[], false, []⟩ &&
      clauses.isEmpty
  | _ => false

def Join.isPlain (d : Dialect) (j : Join) : Bool :=
  !j.isGlobal && !j.operator.words.isEmpty && j.relation.isPlain d && j.matching.isNone && j.condition.all (Expr.fits d) &&
    (j.operator != .cross || j.condition.isNone) && j.constraint == .none

def TableTree.isPlain (d : Dialect) (t : TableTree) : Bool := t.relation.isPlain d && t.joins.all (Join.isPlain d)

/-- Expressions that are not taken for something else where items are selected. -/
def Expr.isItem (d : Dialect) : Expr → Bool
  | .ident ⟨text, none⟩ => Text.lower text != "from"
  | .binary (.ident _) .eq _ => d != .mssql
  | _ => true

def SelectItem.isPlain (d : Dialect) : SelectItem → Bool
  | .expr e aliasName => e.fits d && e.isItem d && aliasName.all (isPlainIdent d)
  | .wildcard table options => table.isNone && options.isEmpty

def Select.isPlain (d : Dialect) (s : Select) : Bool :=
  !s.tablesFirst && s.quantifiers.isEmpty && !s.projection.isEmpty && s.projection.all (SelectItem.isPlain d) && s.into.isNone &&
    s.tables.all (TableTree.isPlain d) && s.beforeWhere.isEmpty && s.selection.all (Expr.fits d) && s.grouping.isEmpty &&
    s.having.isNone && s.windows.isEmpty

def Assignment.isPlain (d : Dialect) (a : Assignment) : Bool :=
  (match a.target with | .column name => isPlainName d name | .row _ => false) && a.value.fits d

def Update.isPlain (d : Dialect) (u : Update) : Bool :=
  u.conflict.isNone && u.table.isPlain d && u.sources.all (TableTree.isPlain d) && (!u.sourcesFirst || !u.sources.isEmpty) &&
    !u.assignments.isEmpty && u.assignments.all (Assignment.isPlain d) && u.selection.all (Expr.fits d) && u.returning.isEmpty

def Delete.isPlain (d : Dialect) (x : Delete) : Bool :=
  (x.targets.isEmpty || d != .generic) && x.targets.all (isPlainName d) && x.fromKeyword && !x.tables.isEmpty &&
    x.tables.all (TableTree.isPlain d) && x.usingTables.all (TableTree.isPlain d) &&
    (x.usingTables.isEmpty || x.tables.all fun t => t.joins.isEmpty) && x.selection.all (Expr.fits d) &&
    x.returning.isEmpty && x.clauses.isEmpty

/-- SELECT, UPDATE and DELETE over named tables and their joins, with plain expressions throughout and no clauses but
FROM, SET, USING of a DELETE, and WHERE. -/
def Statement.isPlain (d : Dialect) : Statement → Bool
  | .query ⟨recursive, ctes, .select s, clauses⟩ => !recursive && ctes.isEmpty && s.isPlain d && clauses.isEmpty
  | .update u => u.isPlain d
  | .delete x => x.isPlain d
  | _ => false

/-! ## Printed texts -/

section

variable {α : Type} {d : Dialect} {x y : String} {a b : List Token}

/-- A text that has tokens is not empty. -/
theorem Prints.ne_empty (h : Prints d x a) (ha : a ≠ []) : x.isEmpty = false := by
  rw [Bool.eq_false_iff]
  intro he
  obtain ⟨ts, hr, rfl⟩ := h
  rw [String.isEmpty_iff] at he
  subst he
  apply ha
  have hlex := hr none rfl [] (by simp [Lexer.Delimited])
  simp [Lexer.lex_nil] at hlex
  simp [hlex]

theorem Prints.spaced (hx : Prints d x a) (hy : Prints d y b) (hb : b ≠ []) : Prints d (x ++ spaced y) (a ++ b) := by
  rw [SqlTemplate.spaced, hy.ne_empty hb]
  exact (hx.blank hy).congr (by simp) rfl

theorem Prints.keyed {k : String} (hk : k ∈ plainKeywords) (hx : Prints d x a) {e : Option Expr}
    (he : ∀ e' ∈ e, Prints d e'.print e'.tokens) :
    Prints d (x ++ optionalExpr k (Expr.printOption e)) (a ++ keyed k (e.map Expr.tokens)) := by
  cases e with
  | none => exact hx.congr (by simp [optionalExpr, Expr.printOption]) (by simp [SqlTemplate.keyed])
  | some e =>
    exact ((hx.blank (prints_kw d hk)).blank (he e rfl)).congr (by simp [optionalExpr, Expr.printOption])
      (by simp [SqlTemplate.keyed])

theorem Prints.listed {k : String} (hk : k ∈ plainKeywords) (hx : Prints d x a) {f : α → String} {g : α → List Token}
    {items : List α} (h : ∀ i ∈ items, Prints d (f i) (g i)) :
    Prints d (x ++ optionalList k (items.map f)) (a ++ listed k (items.map g)) := by
  cases items with
  | nil => exact hx.congr (by simp [optionalList]) (by simp [SqlTemplate.listed])
  | cons i is =>
    exact ((hx.blank (prints_kw d hk)).blank (prints_commas (by simp) h)).congr (by simp [optionalList])
      (by simp [SqlTemplate.listed])

theorem prints_words {ks : List String} (hne : ks ≠ []) (h : ∀ k ∈ ks, k ∈ plainKeywords) :
    Prints d (Text.join " " ks) (ks.map kw) := by
  induction ks with
  | nil => exact absurd rfl hne
  | cons k ks ih =>
    have hk := prints_kw d (h k List.mem_cons_self)
    cases ks with
    | nil => exact hk.congr (by simp [Text.join]) rfl
    | cons k' ks =>
      have hks := ih (by simp) fun l hl => h l (List.mem_cons_of_mem _ hl)
      have hj : Text.join " " (k :: k' :: ks) = k ++ " " ++ Text.join " " (k' :: ks) := String.intercalate_cons_cons
      rw [hj]
      exact hk.blank hks

theorem Prints.alias (hx : Prints d x a) {name : Option Ident} (h : ∀ i ∈ name, isPlainIdent d i = true) :
    Prints d (x ++ (match name with | some i => " AS " ++ i.print | none => "")) (a ++ aliasTokens name) := by
  cases name with
  | none => exact hx.congr (by simp) (by simp [aliasTokens, SqlTemplate.keyed])
  | some i =>
    exact ((hx.blank (prints_kw d (by decide : "AS" ∈ plainKeywords))).blank (prints_ident (h i rfl))).congr (by simp)
      (by simp [aliasTokens, SqlTemplate.keyed])

theorem prints_plainName {name : ObjectName} (h : isPlainName d name = true) : Prints d name.print (nameTokens name) := by
  simp only [isPlainName, Bool.and_eq_true, Bool.not_eq_true', List.isEmpty_eq_false_iff, List.all_eq_true] at h
  exact prints_name h.1 h.2

end

section

variable {d : Dialect}

theorem Expr.isPlain_of_fits {e : Expr} (h : e.fits d = true) : e.isPlain d = true := by
  simp only [Expr.fits, Bool.and_eq_true] at h
  exact h.1

theorem Expr.levels_of_fits {e : Expr} (h : e.fits d = true) : e.levels ≤ exprLevels := by
  simp only [Expr.fits, Bool.and_eq_true, decide_eq_true_eq] at h
  exact h.2

theorem prints_fits {e : Option Expr} (h : e.all (Expr.fits d) = true) : ∀ e' ∈ e, Prints d e'.print e'.tokens := by
  intro e' he
  cases he
  exact prints_expr (Expr.isPlain_of_fits h)

/-- What a plain relation is. -/
theorem Factor.eq_of_isPlain {f : Factor} (h : f.isPlain d = true) :
    ∃ (name : ObjectName) (i : Option Ident), f = .table name (i.map (⟨·, []⟩)) ⟨[], false, []⟩ [] ∧
      isPlainName d name = true ∧ ∀ j ∈ i, isPlainIdent d j = true := by
  cases f with
  | table name aliasName details clauses =>
    simp only [Factor.isPlain, Bool.and_eq_true, beq_iff_eq, List.isEmpty_iff] at h
    obtain ⟨⟨⟨hn, ha⟩, rfl⟩, rfl⟩ := h
    cases aliasName with
    | none => exact ⟨name, none, rfl, hn, fun j hj => by cases hj⟩
    | some a =>
      obtain ⟨i, columns⟩ := a
      simp only [Option.all_some, Bool.and_eq_true, List.isEmpty_iff] at ha
      obtain ⟨rfl, hi⟩ := ha
      exact ⟨name, some i, rfl, hn, fun j hj => by cases hj; exact hi⟩
  | _ => cases h

theorem prints_factor {f : Factor} (h : f.isPlain d = true) : Prints d f.print f.tokens := by
  obtain ⟨name, i, rfl, hn, hi⟩ := Factor.eq_of_isPlain h
  refine ((prints_plainName hn).alias hi).congr ?_ (by cases i <;> rfl)
  cases i <;> simp [Factor.print, printPartitions, Form.optional, asAlias, TableAlias.print, spacedAll, Clause.printList]

theorem Join.print_plain {op : JoinOperator} {f : Factor} {condition : Option Expr} (hop : op.words ≠ [])
    (hcross : op ≠ .cross ∨ condition = none) : Join.print ⟨false, op, f, none, condition, .none⟩ =
      op.print ++ " " ++ f.print ++ optionalExpr "ON" (Expr.printOption condition) := by
  have hmatching : printMatching none = "" := rfl
  rw [Join.print, Expr.printOption, hmatching, String.append_empty]
  cases op with
  | cross =>
    cases hcross.resolve_left (by simp)
    simp [printJoin, Form.optional, optionalExpr, Expr.printOption]
  | join | inner | left | leftOuter | right | rightOuter | fullOuter =>
    cases condition <;> simp [printJoin, Form.optional, isNatural, printJoinConstraint, optionalExpr, Expr.printOption]
  | _ => exact absurd rfl hop

theorem prints_join {j : Join} (h : j.isPlain d = true) : Prints d j.print j.tokens := by
  obtain ⟨isGlobal, op, f, matching, condition, constraint⟩ := j
  simp only [Join.isPlain, Bool.and_eq_true, Bool.not_eq_true', List.isEmpty_eq_false_iff, Bool.or_eq_true, bne_iff_ne,
    Option.isNone_iff_eq_none, beq_iff_eq] at h
  obtain ⟨⟨⟨⟨⟨⟨rfl, hop⟩, hf⟩, rfl⟩, hc⟩, hcross⟩, rfl⟩ := h
  have hwords : (∀ k ∈ op.words, k ∈ plainKeywords) ∧ op.print = Text.join " " op.words := by
    cases op <;> first | exact absurd rfl hop | exact ⟨by decide, by decide⟩
  have hhead := ((prints_words hop hwords.1).blank (prints_factor hf))
  have hall := hhead.keyed (by decide : "ON" ∈ plainKeywords) (prints_fits hc)
  refine hall.congr ?_ (by simp [Join.tokens])
  rw [Join.print_plain hop hcross, hwords.2]

theorem prints_tree {t : TableTree} (h : t.isPlain d = true) : Prints d t.print t.tokens := by
  obtain ⟨f, joins⟩ := t
  simp only [TableTree.isPlain, Bool.and_eq_true, List.all_eq_true] at h
  have hjoins : ∀ {x : String} {a : List Token}, Prints d x a → (∀ j ∈ joins, j.isPlain d = true) →
      Prints d (x ++ spacedAll (Join.printList joins)) (a ++ joins.flatMap Join.tokens) := by
    clear h
    induction joins with
    | nil => intro x a hx _; exact hx.congr (by simp [spacedAll, Join.printList]) (by simp)
    | cons j js ih =>
      intro x a hx hj
      have hjs := ih (hx.blank (prints_join (hj j List.mem_cons_self))) fun k hk => hj k (List.mem_cons_of_mem _ hk)
      exact hjs.congr (by simp [spacedAll, Join.printList]) (by simp)
  rw [TableTree.print]
  exact hjoins (prints_factor h.1) h.2

theorem prints_item {i : SelectItem} (h : i.isPlain d = true) : Prints d i.print i.tokens := by
  cases i with
  | expr e aliasName =>
    simp only [SelectItem.isPlain, Bool.and_eq_true] at h
    have he := prints_expr (Expr.isPlain_of_fits h.1.1)
    refine (he.alias fun i hi => ?_).congr (by cases aliasName <;> simp [SelectItem.print]) rfl
    cases hi
    exact h.2
  | wildcard table options =>
    simp only [SelectItem.isPlain, Bool.and_eq_true, Option.isNone_iff_eq_none, List.isEmpty_iff] at h
    obtain ⟨rfl, rfl⟩ := h
    exact (Prints.of_reads (Lexer.reads_operator d (by decide : "*" ∈ Lexer.plainOperators)) rfl).congr
      (by simp [SelectItem.print, printStar, spacedAll, Clause.printList]) rfl

theorem prints_assignment {a : Assignment} (h : a.isPlain d = true) : Prints d a.print a.tokens := by
  obtain ⟨target, value⟩ := a
  simp only [Assignment.isPlain, Bool.and_eq_true] at h
  cases target with
  | column name =>
    have heq : Prints d "=" [.symbol "="] := .of_reads (Lexer.reads_operator d (by decide : "=" ∈ Lexer.plainOperators)) rfl
    exact (((prints_plainName h.1).blank heq).blank (prints_expr (Expr.isPlain_of_fits h.2))).congr
      (by simp [Assignment.print, Target.print]) (by simp [Assignment.tokens])
  | row names => cases h.1

theorem SelectItem.printList_eq (is : List SelectItem) : SelectItem.printList is = is.map SelectItem.print := by
  induction is with
  | nil => rfl
  | cons i is ih => rw [SelectItem.printList, ih, List.map_cons]

theorem TableTree.printList_eq (ts : List TableTree) : TableTree.printList ts = ts.map TableTree.print := by
  induction ts with
  | nil => rfl
  | cons t ts ih => rw [TableTree.printList, ih, List.map_cons]

theorem Assignment.printList_eq (as : List Assignment) : Assignment.printList as = as.map Assignment.print := by
  induction as with
  | nil => rfl
  | cons a as ih => rw [Assignment.printList, ih, List.map_cons]

theorem prints_trees {ts : List TableTree} (h : ts.all (TableTree.isPlain d) = true) :
    ∀ t ∈ ts, Prints d t.print t.tokens := by
  rw [List.all_eq_true] at h
  exact fun t ht => prints_tree (h t ht)

theorem commaTokens_ne_nil {items : List (List Token)} (hne : items ≠ []) (h : ∀ i ∈ items, i ≠ []) : commaTokens items ≠ [] := by
  match items, hne with
  | [a], _ => exact h a (by simp)
  | a :: b :: rest, _ => simp [commaTokens]

theorem exists_eq_cons_of_isPlainName {name : ObjectName} (h : isPlainName d name = true) : ∃ i is, name = i :: is := by
  simp only [isPlainName, Bool.and_eq_true, Bool.not_eq_true', List.isEmpty_eq_false_iff] at h
  exact List.exists_cons_of_ne_nil h.1

theorem nameTokens_ne_nil {name : ObjectName} (h : isPlainName d name = true) : nameTokens name ≠ [] := by
  obtain ⟨i, is, rfl⟩ := exists_eq_cons_of_isPlainName h
  cases is <;> simp [nameTokens]

theorem SelectItem.tokens_ne_nil {i : SelectItem} (h : i.isPlain d = true) : i.tokens ≠ [] := by
  cases i with
  | expr e aliasName =>
    simp only [SelectItem.isPlain, Bool.and_eq_true] at h
    obtain ⟨t, ts, he, -⟩ := Expr.exists_tokens_eq_cons (Expr.isPlain_of_fits h.1.1)
    simp [SelectItem.tokens, he]
  | wildcard table options => simp [SelectItem.tokens]

theorem TableTree.tokens_ne_nil {t : TableTree} (h : t.isPlain d = true) : t.tokens ≠ [] := by
  obtain ⟨f, joins⟩ := t
  simp only [TableTree.isPlain, Bool.and_eq_true] at h
  obtain ⟨name, i, rfl, hn, -⟩ := Factor.eq_of_isPlain h.1
  simp [TableTree.tokens, Factor.tokens, nameTokens_ne_nil hn]

theorem prints_select {s : Select} (h : s.isPlain d = true) : Prints d s.print s.tokens := by
  obtain ⟨tablesFirst, quantifiers, projection, into, tables, beforeWhere, selection, grouping, having, windows⟩ := s
  simp only [Select.isPlain, Bool.and_eq_true, Bool.not_eq_true', List.isEmpty_iff, List.isEmpty_eq_false_iff,
    Option.isNone_iff_eq_none] at h
  obtain ⟨⟨⟨⟨⟨⟨⟨⟨⟨⟨rfl, rfl⟩, hne⟩, hitems⟩, rfl⟩, htables⟩, rfl⟩, hwhere⟩, rfl⟩, rfl⟩, rfl⟩ := h
  rw [List.all_eq_true] at hitems
  have hlist : Prints d (Text.commas (projection.map SelectItem.print)) (commaTokens (projection.map SelectItem.tokens)) :=
    prints_commas hne fun i hi => prints_item (hitems i hi)
  have hnil : commaTokens (projection.map SelectItem.tokens) ≠ [] := by
    refine commaTokens_ne_nil (by simpa using hne) fun ts ht => ?_
    obtain ⟨i, hi, rfl⟩ := List.mem_map.1 ht
    exact SelectItem.tokens_ne_nil (hitems i hi)
  have hhead := ((prints_kw d (by decide : "SELECT" ∈ plainKeywords)).spaced hlist hnil)
  have hfrom := hhead.listed (by decide : "FROM" ∈ plainKeywords) (prints_trees htables)
  have hall := hfrom.keyed (by decide : "WHERE" ∈ plainKeywords) (prints_fits hwhere)
  refine hall.congr ?_ (by simp [Select.tokens])
  simp [Select.print, SelectItem.printList_eq, TableTree.printList_eq, Form.optional, spacedAll, Clause.printList, optionalExpr,
    Expr.printOption]

theorem prints_update {u : Update} (h : u.isPlain d = true) : Prints d u.print u.tokens := by
  obtain ⟨conflict, table, sources, sourcesFirst, assignments, selection, returning⟩ := u
  simp only [Update.isPlain, Bool.and_eq_true, Bool.not_eq_true', List.isEmpty_iff, List.isEmpty_eq_false_iff, Bool.or_eq_true,
    Option.isNone_iff_eq_none] at h
  obtain ⟨⟨⟨⟨⟨⟨⟨rfl, ht⟩, hs⟩, -⟩, hne⟩, ha⟩, hwhere⟩, rfl⟩ := h
  rw [List.all_eq_true] at ha
  have hsets : ∀ {x : String} {a : List Token}, Prints d x a → Prints d (x ++ optionalList "SET" (Assignment.printList assignments))
      (a ++ kw "SET" :: commaTokens (assignments.map Assignment.tokens)) := by
    intro x a hx
    have hlist := hx.listed (by decide : "SET" ∈ plainKeywords) fun a h => prints_assignment (ha a h)
    exact hlist.congr (by rw [Assignment.printList_eq]) (by simp [listed, hne])
  have hhead := (prints_kw d (by decide : "UPDATE" ∈ plainKeywords)).blank (prints_tree ht)
  -- the FROM list stands before SET or after it
  cases sourcesFirst with
  | true =>
    have hfrom := hsets (hhead.listed (by decide : "FROM" ∈ plainKeywords) (prints_trees hs))
    refine (hfrom.keyed (by decide : "WHERE" ∈ plainKeywords) (prints_fits hwhere)).congr ?_ (by simp [Update.tokens])
    simp [Update.print, TableTree.printList_eq, Form.optional, optionalList, SelectItem.printList]
  | false =>
    have hfrom := (hsets hhead).listed (by decide : "FROM" ∈ plainKeywords) (prints_trees hs)
    refine (hfrom.keyed (by decide : "WHERE" ∈ plainKeywords) (prints_fits hwhere)).congr ?_ (by simp [Update.tokens])
    simp [Update.print, TableTree.printList_eq, Form.optional, optionalList, SelectItem.printList]

theorem prints_delete {x : Delete} (h : x.isPlain d = true) : Prints d x.print x.tokens := by
  obtain ⟨targets, fromKeyword, tables, usingTables, selection, returning, clauses⟩ := x
  simp only [Delete.isPlain, Bool.and_eq_true, Bool.not_eq_true', List.isEmpty_iff, List.isEmpty_eq_false_iff, Bool.or_eq_true] at h
  obtain ⟨⟨⟨⟨⟨⟨⟨⟨⟨-, htargets⟩, rfl⟩, hne⟩, ht⟩, hu⟩, -⟩, hwhere⟩, rfl⟩, rfl⟩ := h
  have hnil : commaTokens (tables.map TableTree.tokens) ≠ [] := by
    refine commaTokens_ne_nil (by simpa using hne) fun ts hts => ?_
    obtain ⟨t, ht', rfl⟩ := List.mem_map.1 hts
    exact TableTree.tokens_ne_nil (List.all_eq_true.1 ht t ht')
  have hdelete := prints_kw d (by decide : "DELETE" ∈ plainKeywords)
  have hhead : Prints d ("DELETE" ++ (if targets.isEmpty then "" else " " ++ Text.commas (targets.map ObjectName.print)))
      (kw "DELETE" :: commaTokens (targets.map nameTokens)) := by
    cases targets with
    | nil => exact hdelete.congr (by simp) (by simp [commaTokens])
    | cons t ts =>
      rw [List.all_eq_true] at htargets
      exact (hdelete.blank (prints_commas (by simp) fun n hn => prints_plainName (htargets n hn))).congr (by simp) (by simp)
  have hfrom := hhead.blank (prints_kw d (by decide : "FROM" ∈ plainKeywords))
  have htables := (hfrom.spaced (prints_commas hne (prints_trees ht)) hnil)
  have husing := htables.listed (by decide : "USING" ∈ plainKeywords) (prints_trees hu)
  refine (husing.keyed (by decide : "WHERE" ∈ plainKeywords) (prints_fits hwhere)).congr ?_ (by simp [Delete.tokens])
  simp [Delete.print, TableTree.printList_eq, Form.optional, optionalList, SelectItem.printList, spacedAll, Clause.printList]

/-- What a plain statement is. -/
theorem Statement.cases_of_isPlain {st : Statement} (h : st.isPlain d = true) :
    (∃ s : Select, st = .query ⟨false, [], .select s, []⟩ ∧ s.isPlain d = true) ∨
      (∃ u : Update, st = .update u ∧ u.isPlain d = true) ∨ ∃ x : Delete, st = .delete x ∧ x.isPlain d = true := by
  cases st with
  | query q =>
    obtain ⟨recursive, ctes, body, clauses⟩ := q
    cases body with
    | select s =>
      simp only [Statement.isPlain, Bool.and_eq_true, Bool.not_eq_true', List.isEmpty_iff] at h
      obtain ⟨⟨⟨rfl, rfl⟩, hs⟩, rfl⟩ := h
      exact .inl ⟨s, rfl, hs⟩
    | _ => cases h
  | update u => exact .inr (.inl ⟨u, rfl, h⟩)
  | delete x => exact .inr (.inr ⟨x, rfl, h⟩)
  | _ => cases h

/-- A plain statement prints as its tokens. -/
theorem prints_statement {st : Statement} (h : st.isPlain d = true) : Prints d st.print st.tokens := by
  rcases Statement.cases_of_isPlain h with ⟨s, rfl, hs⟩ | ⟨u, rfl, hu⟩ | ⟨x, rfl, hx⟩
  · exact (prints_select hs).congr (by simp [Statement.print, Query.print, SetExpr.print, spacedAll, Clause.printList]) rfl
  · exact prints_update hu
  · exact prints_delete hx

end

end SqlTemplate
