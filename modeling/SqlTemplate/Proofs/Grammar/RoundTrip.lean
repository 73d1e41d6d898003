/-
Plain statements are read back from their texts: the tokens of the text are those of the statement, among them no
bracket, and from these tokens the grammar reads the statement and nothing else.
-/
import SqlTemplate.Proofs.Grammar.Statement

namespace SqlTemplate

open Lexer (nameTokens)

/-! ## Brackets -/

/-- The token that an array subscript or a bracketed name would begin with. -/
def bracket : Token := .symbol "["

section

variable {d : Dialect}

@[simp] theorem bracket_ne_kw (k : String) : bracket ≠ kw k := by simp [bracket, kw]

theorem bracket_notMem_name (name : ObjectName) : bracket ∉ nameTokens name := by
  induction name with
  | nil => simp [nameTokens]
  | cons i is ih =>
    cases is with
    | nil => simp [nameTokens, Lexer.identToken, bracket]
    | cons j js => simpa [nameTokens, Lexer.identToken, bracket] using ih

theorem bracket_notMem_commas {items : List (List Token)} (h : ∀ i ∈ items, bracket ∉ i) : bracket ∉ commaTokens items := by
  induction items with
  | nil => simp [commaTokens]
  | cons a as ih =>
    cases as with
    | nil => exact h a List.mem_cons_self
    | cons b bs =>
      rw [commaTokens, List.mem_append, List.mem_cons]
      rintro (ha | hc | hb)
      · exact h a List.mem_cons_self ha
      · simp [bracket] at hc
      · exact ih (fun i hi => h i (List.mem_cons_of_mem _ hi)) hb

theorem bracket_notMem_mapped {α : Type} {f : α → List Token} {items : List α} (h : ∀ i ∈ items, bracket ∉ f i) :
    bracket ∉ commaTokens (items.map f) := by
  refine bracket_notMem_commas fun ts ht => ?_
  obtain ⟨i, hi, rfl⟩ := List.mem_map.1 ht
  exact h i hi

theorem bracket_notMem_value (v : Value) : bracket ∉ v.tokens := by
  cases v <;> simp [Value.tokens, bracket, kw]

theorem bracket_ne_op {op : BinaryOp} (h : op.isPlain = true) : bracket ≠ op.token := by
  have hall : ∀ op ∈ BinaryOp.plain, bracket ≠ op.token := by decide
  exact hall op (BinaryOp.mem_plain h)

theorem bracket_notMem_not (negated : Bool) : bracket ∉ notTokens negated := by
  cases negated <;> simp [notTokens, bracket, kw]

theorem bracket_notMem_expr {e : Expr} (h : e.isPlain d = true) : bracket ∉ e.tokens := by
  have hparen : bracket ≠ .symbol "(" ∧ bracket ≠ .symbol ")" := by decide
  refine Expr.plain_induction (P := fun e => bracket ∉ e.tokens) ?ident ?compound ?value ?nested ?not ?binary ?test ?inList
    ?between ?pattern e h
  case ident => intro i _; simp [Expr.tokens, Lexer.identToken, bracket]
  case compound => intro i j is _; rw [Expr.tokens]; exact bracket_notMem_name _
  case value => intro v _; rw [Expr.tokens]; exact bracket_notMem_value v
  case nested => intro e _ ih; simp [Expr.tokens, ih, hparen]
  case not => intro e _ ih _; simp [Expr.tokens, ih]
  case binary => intro left op right hop _ ihl ihr _ _; simp [Expr.tokens, ihl, ihr, bracket_ne_op hop]
  case test => intro e negated truth ih _; simp [Expr.tokens, ih, bracket_notMem_not]
  case inList =>
    intro e negated items ih _ hitems _
    have hlist := bracket_notMem_mapped fun i hi => (hitems i hi).2
    simp [Expr.tokens, ih, hparen, bracket_notMem_not, Expr.tokensEach_eq, hlist]
  case between => intro e negated low high _ _ ih ihl ihh _ _ _ _; simp [Expr.tokens, ih, ihl, ihh, bracket_notMem_not]
  case pattern => intro e negated family p _ _ ih ihp _ _; simp [Expr.tokens, ih, ihp, bracket_notMem_not]

theorem bracket_notMem_keyed (k : String) {ts : Option (List Token)} (h : ∀ t ∈ ts, bracket ∉ t) : bracket ∉ keyed k ts := by
  cases ts with
  | none => simp [keyed]
  | some t => simpa [keyed] using h t rfl

theorem bracket_notMem_listed (k : String) {α : Type} {f : α → List Token} {items : List α} (h : ∀ i ∈ items, bracket ∉ f i) :
    bracket ∉ listed k (items.map f) := by
  unfold listed
  split
  · exact List.not_mem_nil
  · simpa using bracket_notMem_mapped h

theorem bracket_notMem_alias (name : Option Ident) : bracket ∉ aliasTokens name := by
  refine bracket_notMem_keyed "AS" fun ts ht => ?_
  obtain ⟨i, -, rfl⟩ := Option.map_eq_some_iff.1 ht
  simp [Lexer.identToken, bracket]

/-- Conditions that end a join or a statement. -/
theorem bracket_notMem_condition (k : String) {e : Option Expr} (h : e.all (Expr.fits d) = true) :
    bracket ∉ keyed k (e.map Expr.tokens) := by
  refine bracket_notMem_keyed k fun ts ht => ?_
  obtain ⟨e, rfl, rfl⟩ := Option.map_eq_some_iff.1 ht
  exact bracket_notMem_expr (Expr.isPlain_of_fits h)

theorem bracket_notMem_factor (f : Factor) : bracket ∉ f.tokens := by
  cases f <;> simp [Factor.tokens, bracket_notMem_name, bracket_notMem_alias]

theorem bracket_notMem_tree {t : TableTree} (h : t.isPlain d = true) : bracket ∉ t.tokens := by
  simp only [TableTree.isPlain, Bool.and_eq_true, List.all_eq_true] at h
  rw [TableTree.tokens, List.mem_append, List.mem_flatMap]
  rintro (hf | ⟨j, hj, hmem⟩)
  · exact bracket_notMem_factor _ hf
  · have hplain := h.2 j hj
    simp only [Join.isPlain, Bool.and_eq_true] at hplain
    have hon := bracket_notMem_condition "ON" hplain.1.1.2
    have hwords : bracket ∉ j.operator.words.map kw := by simp [eq_comm]
    simp [Join.tokens, hwords, bracket_notMem_factor, hon] at hmem

theorem bracket_notMem_trees {ts : List TableTree} (h : ts.all (TableTree.isPlain d) = true) : ∀ t ∈ ts, bracket ∉ t.tokens :=
  fun t ht => bracket_notMem_tree (List.all_eq_true.1 h t ht)

theorem bracket_notMem_item {i : SelectItem} (h : i.isPlain d = true) : bracket ∉ i.tokens := by
  cases i with
  | expr e aliasName =>
    simp only [SelectItem.isPlain, Bool.and_eq_true] at h
    simp [SelectItem.tokens, bracket_notMem_expr (Expr.isPlain_of_fits h.1.1), bracket_notMem_alias]
  | wildcard table options => simp [SelectItem.tokens, bracket]

theorem bracket_notMem_assignment {a : Assignment} (h : a.isPlain d = true) : bracket ∉ a.tokens := by
  obtain ⟨target, value⟩ := a
  simp only [Assignment.isPlain, Bool.and_eq_true] at h
  have hv := bracket_notMem_expr (Expr.isPlain_of_fits h.2)
  cases target with
  | column name => simp [Assignment.tokens, bracket_notMem_name, hv]; decide
  | row names => cases h.1

theorem bracket_notMem_statement {st : Statement} (h : st.isPlain d = true) : bracket ∉ st.tokens := by
  rcases Statement.cases_of_isPlain h with ⟨s, rfl, hs⟩ | ⟨u, rfl, hu⟩ | ⟨x, rfl, hx⟩
  · simp only [Select.isPlain, Bool.and_eq_true] at hs
    obtain ⟨⟨⟨⟨⟨⟨⟨⟨-, hitems⟩, -⟩, htables⟩, -⟩, hwhere⟩, -⟩, -⟩, -⟩ := hs
    simp [Statement.tokens, Select.tokens, bracket_notMem_condition "WHERE" hwhere,
      bracket_notMem_listed "FROM" (bracket_notMem_trees htables),
      bracket_notMem_mapped fun i hi => bracket_notMem_item (List.all_eq_true.1 hitems i hi)]
  · simp only [Update.isPlain, Bool.and_eq_true] at hu
    obtain ⟨⟨⟨⟨⟨⟨⟨-, ht⟩, hs⟩, -⟩, -⟩, ha⟩, hwhere⟩, -⟩ := hu
    have hsources := bracket_notMem_listed "FROM" (bracket_notMem_trees hs)
    cases hf : u.sourcesFirst <;>
      simp [Statement.tokens, Update.tokens, hf, bracket_notMem_tree ht, hsources, bracket_notMem_condition "WHERE" hwhere,
        bracket_notMem_mapped fun a hmem => bracket_notMem_assignment (List.all_eq_true.1 ha a hmem)]
  · simp only [Delete.isPlain, Bool.and_eq_true] at hx
    obtain ⟨⟨⟨⟨⟨⟨-, ht⟩, hu⟩, -⟩, hwhere⟩, -⟩, -⟩ := hx
    simp [Statement.tokens, Delete.tokens, bracket_notMem_mapped fun name _ => bracket_notMem_name name,
      bracket_notMem_mapped (bracket_notMem_trees ht), bracket_notMem_listed "USING" (bracket_notMem_trees hu),
      bracket_notMem_condition "WHERE" hwhere]

end

namespace Grammar

open SqlTemplate.Grammar.Parser

/-! ## Statements -/

variable {d : Dialect} {ls : List Lexeme}

theorem unbracketed_of_tokens {ts : List Token} (h : bracket ∉ ts) (hl : ls.map Lexeme.token = ts) : Unbracketed ls := by
  intro l hmem ht
  apply h
  rw [← hl, ← show l.token = bracket from ht]
  exact List.mem_map_of_mem hmem

theorem queryClauses_nil (r : Rules) : queryClauses d r [] = .ok ([], []) := by
  cases d <;> rfl

/-- A plain SELECT is a whole query. -/
theorem selectQuery_eq {s : Select} {n : Nat} (h : s.isPlain d = true) (hn : exprLevels ≤ n + 1) (hl : ls.map Lexeme.token = s.tokens)
    (hb : Unbracketed ls) : query d (rules d false (n + 1)) ls = .ok (⟨false, [], .select s, []⟩, []) := by
  have hkey : nextKeyword ls = some "SELECT" := by
    rw [Select.tokens] at hl
    obtain ⟨l, ls, rfl, ht, -⟩ := List.map_eq_cons_iff.1 hl
    rw [nextKeyword, next_cons, ht]
    rfl
  have hother : ∀ k ∈ ["WITH", "INSERT", "UPDATE", "DELETE"], nextKeyword ls ≠ some k := by
    rw [hkey]
    decide
  have hsimple : simpleBody d (rules d false (n + 1)) ls = .ok (.select s, []) := by
    rw [simpleBody, bind_ok (peekKeyword_apply ls), hkey]
    exact bind_ok (select_eq h hn hl hb)
  have hbody : body d (rules d false (n + 1)) ls = .ok (.select s, []) := by
    have hintersections : intersections d (rules d false (n + 1)) ls = .ok (.select s, []) := by
      rw [intersections, bind_ok hsimple]
      rfl
    rw [body, bind_ok hintersections]
    rfl
  rw [query_eq hother, bind_ok hbody, bind_ok (queryClauses_nil _)]
  rfl

/-- The keyword that a plain statement begins with. -/
def verb : Statement → String
  | .update _ => "UPDATE"
  | .delete _ => "DELETE"
  | _ => "SELECT"

theorem exists_eq_cons {st : Statement} (h : st.isPlain d = true) (hl : ls.map Lexeme.token = st.tokens) :
    ∃ l ls', ls = l :: ls' ∧ l.token = kw (verb st) ∧ st.tokens = kw (verb st) :: ls'.map Lexeme.token := by
  have hcons : ∃ ts, st.tokens = kw (verb st) :: ts := by
    rcases Statement.cases_of_isPlain h with ⟨s, rfl, -⟩ | ⟨u, rfl, -⟩ | ⟨x, rfl, -⟩ <;> exact ⟨_, rfl⟩
  obtain ⟨ts, hts⟩ := hcons
  rw [hts] at hl
  obtain ⟨l, ls', rfl, ht, hl'⟩ := List.map_eq_cons_iff.1 hl
  exact ⟨l, ls', rfl, ht, by rw [hts, hl']⟩

/-- A plain statement is read from its tokens. -/
theorem statement_eq {st : Statement} {n : Nat} (h : st.isPlain d = true) (hn : exprLevels ≤ n + 1)
    (hl : ls.map Lexeme.token = st.tokens) : statement d (rules d false (n + 2)) ls = .ok (st, []) := by
  have hb := unbracketed_of_tokens (bracket_notMem_statement h) hl
  obtain ⟨l, ls, rfl, ht, htokens⟩ := exists_eq_cons h hl
  have hkey : nextKeyword (l :: ls) = some (verb st) := by
    rw [nextKeyword, next_cons, ht]
    rfl
  have hlocks : ∀ k ∈ ["LOCK", "UNLOCK"], takeWhere (d == .mysql) (takeKeywords [k, "TABLES"]) (l :: ls) = .ok (false, l :: ls) := by
    intro k hk
    refine takeWhere_other _ (takeKeywords_other ?_)
    rw [hkey]
    rintro ⟨rfl⟩
    cases st <;> simp [verb] at hk
  rw [statement, bind_ok (hlocks "LOCK" (by decide))]
  simp only [Bool.false_eq_true, if_false]
  rw [bind_ok (hlocks "UNLOCK" (by decide))]
  simp only [Bool.false_eq_true, if_false]
  rw [bind_ok (peekKeyword_apply _), hkey]
  rcases Statement.cases_of_isPlain h with ⟨s, rfl, hs⟩ | ⟨u, rfl, hu⟩ | ⟨x, rfl, hx⟩
  · have hquery : (rules d false (n + 2)).query (l :: ls) = .ok (⟨false, [], .select s, []⟩, []) := selectQuery_eq hs hn hl hb
    exact bind_ok hquery
  · have hupdate := update_eq hu (by omega : exprLevels ≤ n + 1 + 1) htokens.symm hb.tail
    exact (bind_ok (skip_cons l ls)).trans (bind_ok hupdate)
  · have hdelete := delete_eq hx (by omega : exprLevels ≤ n + 1 + 1) htokens.symm hb.tail
    exact (bind_ok (skip_cons l ls)).trans (bind_ok hdelete)

theorem statements_eq {st : Statement} (h : st.isPlain d = true) (hl : ls.map Lexeme.token = st.tokens) :
    statements d ls = .ok ([st], []) := by
  have hst : (rules d false depth).statement ls = .ok (st, []) := statement_eq h (Nat.le_refl exprLevels) hl
  obtain ⟨l, ls, rfl, ht, -⟩ := exists_eq_cons h hl
  have hsemicolon : next (l :: ls) ≠ some (.symbol ";") := by simp [ht, kw]
  rw [statements, bind_ok (remaining_apply _), statementLoop, bind_ok (takeSymbol_other hsemicolon)]
  simp only [Bool.false_eq_true, if_false]
  rw [bind_ok (peek_apply _)]
  exact (bind_ok hst).trans (bind_ok rfl)

end Grammar

/-! ## Texts -/

theorem Prints.solidTokens_eq {d : Dialect} {text : String} {ts : List Token} (h : Prints d text ts) :
    ∃ ls, solidTokens d text = .ok ls ∧ ls.map Lexeme.token = ts := by
  obtain ⟨us, hr, rfl⟩ := h
  have hlex := hr.lex_eq
  unfold Lexer.lex at hlex
  cases hrun : Lexer.run d none 0 ⟨1, 1⟩ text.toList with
  | error e => rw [hrun] at hlex; cases hlex
  | ok ls =>
    rw [hrun] at hlex
    cases hlex
    refine ⟨ls.filter fun l => !l.token.isBlank, ?_, ?_⟩
    · rw [solidTokens, Lexer.tokenize, hrun]
      rfl
    · rw [List.filter_map]
      rfl

/-- The text of a plain statement is that statement and nothing else. -/
theorem Template.parseSingle_print {c : Config} {st : Statement} (h : st.isPlain c.dialect = true) :
    parseSingle c st.print = .ok st := by
  obtain ⟨ls, hs, hl⟩ := (prints_statement h).solidTokens_eq
  have hparse : parseStatements c.dialect st.print = .ok [st] := by
    rw [parseStatements, hs]
    simp only [bind, Except.bind, Grammar.statements_eq h hl]
    rfl
  rw [parseSingle, hparse]
  rfl

end SqlTemplate
