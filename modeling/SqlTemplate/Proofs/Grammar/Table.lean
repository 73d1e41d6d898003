/-
Reading plain tables: a name, its alias, and the joins after it. What may follow a relation decides whether an
alias or another join is looked for there.
-/
import SqlTemplate.Proofs.Grammar.Expr
import SqlTemplate.Proofs.Tree.Statement

namespace SqlTemplate.Grammar

open SqlTemplate.Grammar.Parser
open Lexer (identToken nameTokens isPlainIdent)

variable {d : Dialect} {r : Rules} {ts rest : List Lexeme} {l : Lexeme} {ls : List Lexeme}

/-! ## Names -/

theorem ident_next {i : Ident} (h : l.token = identToken i) : ident (l :: ls) = .ok (i, ls) := by
  rw [ident, bind_ok (peek_apply _), next_cons, h]
  rfl

theorem length_le_nameTokens (name : ObjectName) : name.length ≤ (nameTokens name).length := by
  induction name with
  | nil => rfl
  | cons i is ih =>
    cases is with
    | nil => rfl
    | cons j is =>
      rw [nameTokens]
      simp only [List.length_cons] at ih ⊢
      omega

theorem nameLoop_eq {name : ObjectName} (hne : name ≠ []) {n : Nat} (hn : name.length ≤ n)
    (hl : ls.map Lexeme.token = nameTokens name) (hr : next rest ≠ some (.symbol ".")) :
    nameLoop n (ls ++ rest) = .ok (name, rest) := by
  induction name generalizing n ls with
  | nil => exact absurd rfl hne
  | cons i is ih =>
    obtain ⟨n, rfl⟩ : ∃ m, n = m + 1 := ⟨n - 1, by simp at hn; omega⟩
    cases is with
    | nil =>
      obtain ⟨l, rfl, ht⟩ := List.map_eq_singleton_iff.1 hl
      rw [List.singleton_append, nameLoop, bind_ok (ident_next ht), bind_ok (takeSymbol_other hr)]
      rfl
    | cons j is =>
      obtain ⟨l, ls1, rfl, ht, hl1⟩ := List.map_eq_cons_iff.1 hl
      obtain ⟨p, ls2, rfl, hp, hl2⟩ := List.map_eq_cons_iff.1 hl1
      rw [List.cons_append, List.cons_append, nameLoop, bind_ok (ident_next ht), bind_ok (takeSymbol_next hp)]
      exact bind_ok (ih (by simp) (by simpa using hn) hl2)

theorem next_name {i : Ident} {is : List Ident} (hl : ls.map Lexeme.token = nameTokens (i :: is)) :
    next (ls ++ rest) = some (identToken i) := by
  obtain ⟨us, hu⟩ : ∃ us, nameTokens (i :: is) = identToken i :: us := by cases is <;> exact ⟨_, rfl⟩
  rw [hu] at hl
  obtain ⟨l, ls, rfl, hl, -⟩ := List.map_eq_cons_iff.1 hl
  exact congrArg some hl

theorem objectName_eq {name : ObjectName} (hne : name ≠ []) (hl : ls.map Lexeme.token = nameTokens name)
    (hr : next rest ≠ some (.symbol ".")) : objectName d (ls ++ rest) = .ok (name, rest) := by
  match name, hne with
  | [i], _ =>
    obtain ⟨l, rfl, ht⟩ := List.map_eq_singleton_iff.1 hl
    rw [List.singleton_append, objectName, bind_ok (remaining_apply _), bind_ok (ident_next ht), bind_ok (takeSymbol_other hr)]
    rfl
  | i :: j :: is, _ =>
    obtain ⟨l, ls1, rfl, ht, hl1⟩ := List.map_eq_cons_iff.1 hl
    obtain ⟨p, ls2, rfl, hp, hl2⟩ := List.map_eq_cons_iff.1 hl1
    have hlength : (j :: is).length ≤ ls2.length := by
      rw [← List.length_map (f := Lexeme.token), hl2]
      exact length_le_nameTokens _
    have hsecond : takeWhere (d == .mssql) (takeSymbol ".") (ls2 ++ rest) = .ok (false, ls2 ++ rest) :=
      takeWhere_other _ (takeSymbol_other (by rw [next_name hl2]; simp [identToken]))
    rw [List.cons_append, List.cons_append, objectName, bind_ok (remaining_apply _), bind_ok (ident_next ht),
      bind_ok (takeSymbol_next hp)]
    simp only [if_true]
    rw [bind_ok hsecond]
    exact bind_ok (nameLoop_eq (by simp) (by simp at hlength ⊢; omega) hl2 hr)

/-! ## Aliases -/

/-- Keywords that may follow a relation. -/
def relationEnds : List String := ["FROM", "WHERE", "SET", "USING", "ON", "JOIN", "INNER", "LEFT", "RIGHT", "FULL", "CROSS"]

/-- The tokens begin with a comma or a keyword from a list, or there are none. -/
def EndsIn (ks : List String) (ts : List Lexeme) : Prop :=
  ∀ t ∈ next ts, t = .symbol "," ∨ ∃ k ∈ ks, t.keyword? = some k

theorem EndsIn.next_ne {ks : List String} (h : EndsIn ks ts) {s : String} (hs : s ≠ ",") : next ts ≠ some (.symbol s) := by
  intro he
  rcases h _ he with ht | ⟨k, -, ht⟩
  · exact hs (Token.symbol.inj ht)
  · cases ht

theorem EndsIn.nextKeyword_ne {ks : List String} (h : EndsIn ks ts) {k : String} (hk : k ∉ ks) : nextKeyword ts ≠ some k := by
  intro he
  obtain ⟨t, ht, he⟩ := Option.bind_eq_some_iff.1 he
  rcases h t ht with rfl | ⟨k', hk', ht'⟩
  · cases he
  · rw [he] at ht'
    cases ht'
    exact hk hk'

theorem EndsIn.takeOneOf {ks ks' : List String} (h : EndsIn ks ts) (hk : ∀ k ∈ ks', k ∉ ks) :
    takeOneOf ks' ts = .ok (none, ts) :=
  takeOneOf_other fun k he hm => h.nextKeyword_ne (hk k hm) he

theorem EndsIn.mono {ks ks' : List String} (h : EndsIn ks ts) (hsub : ∀ k ∈ ks, k ∈ ks') : EndsIn ks' ts := by
  intro t ht
  rcases h t ht with h | ⟨k, hk, h⟩
  · exact .inl h
  · exact .inr ⟨k, hsub k hk, h⟩

theorem EndsIn.ends {ks : List String} (h : EndsIn ks ts) (hsub : ∀ k ∈ ks, k ∈ endKeywords) : Ends ts := by
  intro t ht
  rcases h t ht with rfl | ⟨k, hk, hkey⟩
  · rfl
  · cases t with
    | word w =>
      have hw : w.keyword = some k := hkey
      simpa [Grammar.ends, hw] using hsub k hk
    | _ => cases hkey

theorem endsIn_cons {ks : List String} {k : String} (hl : l.token = kw k) (hk : k ∈ ks) : EndsIn ks (l :: ls) := by
  intro t ht
  rw [next_cons, Option.mem_some_iff] at ht
  exact .inr ⟨k, hk, by rw [← ht, hl]; rfl⟩

theorem endsIn_comma {ks : List String} (hl : l.token = .symbol ",") : EndsIn ks (l :: ls) := by
  intro t ht
  rw [next_cons, Option.mem_some_iff] at ht
  exact .inl (by rw [← ht, hl])

/-- An alias after AS, or none before a word that cannot be one. -/
theorem alias?_eq {accepts : Option String → Bool} {ks : List String} (hks : ∀ k ∈ ks, accepts (some k) = false)
    (has : "AS" ∉ ks) {name : Option Ident} (hl : ls.map Lexeme.token = aliasTokens name) (hr : EndsIn ks rest) :
    alias? accepts (ls ++ rest) = .ok (name, rest) := by
  cases name with
  | some i =>
    obtain ⟨a, ls1, rfl, ha, hl1⟩ := List.map_eq_cons_iff.1 hl
    obtain ⟨m, rfl, hm⟩ := List.map_eq_singleton_iff.1 hl1
    have has : takeKeyword "AS" (a :: m :: rest) = .ok (true, m :: rest) := takeKeyword_next (by rw [ha]; rfl)
    refine (bind_ok has).trans ((bind_ok (peek_apply _)).trans ?_)
    rw [next_cons, hm]
    rfl
  | none =>
    cases List.map_eq_nil_iff.1 hl
    refine (bind_ok (takeKeyword_other (hr.nextKeyword_ne has))).trans ((bind_ok (peek_apply _)).trans ?_)
    cases hn : next rest with
    | none => rfl
    | some t =>
      rcases hr t hn with rfl | ⟨k, hk, ht⟩
      · rfl
      · cases t with
        | word w =>
          have hw : w.keyword = some k := ht
          simp only [hw, hks k hk]
          rfl
        | _ => cases ht

/-! ## Relations -/

theorem tableAlias_eq {i : Option Ident} (hl : ls.map Lexeme.token = aliasTokens i) (hr : EndsIn relationEnds rest) :
    tableAlias d r (ls ++ rest) = .ok (i.map (⟨·, []⟩), rest) := by
  have hends : ∀ k ∈ relationEnds, isTableAlias d (some k) = false := by cases d <;> decide
  have hcolumns : aliasColumns r rest = .ok ([], rest) := by
    rw [aliasColumns, bind_ok (nextIsSymbol_other (hr.next_ne (by decide)))]
    rfl
  rw [tableAlias, bind_ok (alias?_eq hends (by decide) hl hr)]
  cases i with
  | none => rfl
  | some i => exact bind_ok hcolumns

/-- What begins after the name of a plain table. -/
theorem endsIn_alias {i : Option Ident} (hl : ls.map Lexeme.token = aliasTokens i) (hr : EndsIn relationEnds rest) :
    EndsIn ("AS" :: relationEnds) (ls ++ rest) := by
  cases i with
  | none =>
    cases List.map_eq_nil_iff.1 hl
    exact hr.mono fun k hk => List.mem_cons_of_mem _ hk
  | some i =>
    obtain ⟨a, ls1, rfl, ha, -⟩ := List.map_eq_cons_iff.1 hl
    exact endsIn_cons ha List.mem_cons_self

theorem tableVersion_none (h : EndsIn ("AS" :: relationEnds) ts) : tableVersion d r ts = .ok ([], ts) := by
  unfold tableVersion
  split
  · rfl
  · refine (bind_ok (takeKeywords_other (h.nextKeyword_ne (by decide)))).trans ?_
    refine (bind_ok (nextIsKeyword_other (h.nextKeyword_ne (by decide)))).trans ?_
    exact bind_ok (nextIsKeyword_other (h.nextKeyword_ne (by decide)))

theorem tableHints_none (h : EndsIn relationEnds ts) : tableHints r ts = .ok ([], ts) := by
  have hw : nextKeyword ts ≠ some "WITH" := h.nextKeyword_ne (by decide)
  rw [tableHints, bind_ok (peekKeyword_apply ts), bind_ok (p := peekAt 1) rfl]
  generalize nextKeyword ts = first at hw
  generalize ts[1]?.map Lexeme.token = second
  split
  · exact absurd rfl hw
  · rfl

theorem tableSample_none (h : EndsIn relationEnds ts) : tableSample d r ts = .ok ([], ts) := by
  rw [tableSample, bind_ok (h.takeOneOf (by decide))]
  rfl

theorem indexHints_none (h : EndsIn relationEnds ts) : attempt (many indexHint) ts = .ok (some [], ts) := by
  have hone : indexHint ts = .ok (none, ts) := by
    rw [indexHint, bind_ok (h.takeOneOf (by decide))]
    rfl
  have hmany : many indexHint ts = .ok ([], ts) := by
    rw [many, bind_ok (remaining_apply ts)]
    cases ts.length with
    | zero => rfl
    | succ n => exact bind_ok hone
  rw [attempt, hmany]

/-- A named table with or without an alias. -/
theorem namedTable_eq {name : ObjectName} {i : Option Ident} (hn : name ≠ [])
    (hl : ls.map Lexeme.token = nameTokens name ++ aliasTokens i) (hr : EndsIn relationEnds rest) :
    namedTable d r (ls ++ rest) = .ok (.table name (i.map (⟨·, []⟩)) ⟨[], false, []⟩ [], rest) := by
  obtain ⟨ls1, ls2, rfl, hl1, hl2⟩ := List.map_eq_append_iff.1 hl
  have hends := endsIn_alias hl2 hr
  have hpartition : takeWhere (d == .mysql || d == .generic) (takeKeyword "PARTITION") (ls2 ++ rest) = .ok (false, ls2 ++ rest) :=
    takeWhere_other _ (takeKeyword_other (hends.nextKeyword_ne (by decide)))
  have hrest : ∀ hints, (do
      let hinted ← tableHints r
      let clauses := hinted ++ [] ++ (← tableSample d r)
      return Factor.table name (i.map (⟨·, []⟩)) ⟨[], false, hints⟩ clauses : Parser Factor) rest =
      .ok (.table name (i.map (⟨·, []⟩)) ⟨[], false, hints⟩ [], rest) := by
    intro hints
    rw [bind_ok (tableHints_none hr), bind_ok (tableSample_none hr)]
    rfl
  rw [List.append_assoc, namedTable, bind_ok (objectName_eq hn hl1 (hends.next_ne (by decide))), bind_ok hpartition]
  simp only [Bool.false_eq_true, if_false, pure_bind]
  rw [bind_ok (tableVersion_none hends), bind_ok (takeSymbol_other (hends.next_ne (by decide)))]
  simp only [Bool.false_eq_true, if_false]
  rw [bind_ok (takeKeywords_other (hends.nextKeyword_ne (by decide))), bind_ok (tableAlias_eq hl2 hr)]
  split
  · exact (bind_ok (indexHints_none hr)).trans (hrest [])
  · exact hrest []

/-- A plain relation is read from its tokens. -/
theorem relation_eq {f : Factor} (h : f.isPlain d = true) (hl : ls.map Lexeme.token = f.tokens) (hr : EndsIn relationEnds rest) :
    relation d r (ls ++ rest) = .ok (f, rest) := by
  obtain ⟨name, i, rfl, hn, -⟩ := Factor.eq_of_isPlain h
  simp only [isPlainName, Bool.and_eq_true, Bool.not_eq_true', List.isEmpty_eq_false_iff] at hn
  have hl' : ls.map Lexeme.token = nameTokens name ++ aliasTokens i := by
    rw [hl, Factor.tokens]
    cases i <;> rfl
  have hturned : turnedTable d r (ls ++ rest) = .ok (.table name (i.map (⟨·, []⟩)) ⟨[], false, []⟩ [], rest) := by
    have hturns : ∀ n, turned d r (.table name (i.map (⟨·, []⟩)) ⟨[], false, []⟩ []) n rest =
        .ok (.table name (i.map (⟨·, []⟩)) ⟨[], false, []⟩ [], rest) := by
      intro n
      cases n with
      | zero => rfl
      | succ n =>
        rw [turned, bind_ok (hr.takeOneOf (by decide))]
        rfl
    have hpattern : takeWhere (d == .generic) (takeKeyword "MATCH_RECOGNIZE") rest = .ok (false, rest) :=
      takeWhere_other _ (takeKeyword_other (hr.nextKeyword_ne (by decide)))
    rw [turnedTable, bind_ok (namedTable_eq hn.1 hl' hr), bind_ok (remaining_apply _), bind_ok (hturns _), bind_ok hpattern]
    rfl
  obtain ⟨j, js, rfl⟩ := List.exists_cons_of_ne_nil hn.1
  obtain ⟨ls1, ls2, rfl, hl1, -⟩ := List.map_eq_append_iff.1 hl'
  rw [List.append_assoc] at hturned ⊢
  rw [relation, bind_ok (p := peekAt 1) rfl, bind_ok (peek_apply _), next_name hl1]
  exact hturned

/-! ## Joins -/

/-- Keywords that may follow a join. -/
def joinEnds : List String := ["FROM", "WHERE", "SET", "JOIN", "INNER", "LEFT", "RIGHT", "FULL", "CROSS"]

/-- Keywords that may follow a table without joins. -/
def treeEnds : List String := ["FROM", "WHERE", "SET", "USING"]

theorem endsIn_words {op : JoinOperator} (hop : op.words ≠ []) (hl : ls.map Lexeme.token = op.words.map kw) :
    EndsIn joinEnds (ls ++ rest) := by
  have hfirst : ∃ k ks, op.words = k :: ks ∧ k ∈ joinEnds := by
    cases op <;> first | exact absurd rfl hop | exact ⟨_, _, rfl, by decide⟩
  obtain ⟨k, ks, hw, hk⟩ := hfirst
  rw [hw] at hl
  obtain ⟨l, ls, rfl, ht, -⟩ := List.map_eq_cons_iff.1 hl
  exact endsIn_cons ht hk

/-- The keywords of a join say which one it is. -/
theorem join_words {op : JoinOperator} (hop : op.words ≠ []) (hl : ls.map Lexeme.token = op.words.map kw) :
    join d r (ls ++ ts) = (if op = .cross then do return some ⟨false, .cross, ← relation d r, none, none, .none⟩
      else do return some (← joinRest d r false false op) : Parser (Option Join)) ts := by
  cases op with
  | join | inner | left | leftOuter | right | rightOuter | fullOuter | cross =>
    simp only [JoinOperator.words, List.map_cons, List.map_nil, List.map_eq_cons_iff, List.map_eq_nil_iff] at hl
    first
      | obtain ⟨⟨t1, p1⟩, ls1, rfl, rfl, rfl⟩ := hl
        rfl
      | obtain ⟨⟨t1, p1⟩, ls1, rfl, rfl, ⟨t2, p2⟩, ls2, rfl, rfl, rfl⟩ := hl
        rfl
      | obtain ⟨⟨t1, p1⟩, ls1, rfl, rfl, ⟨t2, p2⟩, ls2, rfl, rfl, ⟨t3, p3⟩, ls3, rfl, rfl, rfl⟩ := hl
        rfl
  | _ => exact absurd rfl hop

theorem join_none (h : EndsIn treeEnds ts) : join d r ts = .ok (none, ts) := by
  rw [join, bind_ok (takeKeyword_other (h.nextKeyword_ne (by decide))), bind_ok (takeKeyword_other (h.nextKeyword_ne (by decide)))]
  refine (bind_ok (takeKeyword_other (h.nextKeyword_ne (by decide)))).trans ?_
  refine (bind_ok (takeKeyword_other (h.nextKeyword_ne (by decide)))).trans ?_
  refine (bind_ok (takeKeyword_other (h.nextKeyword_ne (by decide)))).trans ?_
  have hop : joinOperator false ts = .ok (none, ts) := by
    have hk : ∀ k ∈ nextKeyword ts, k ∈ treeEnds := by
      intro k hk
      by_contra hne
      exact h.nextKeyword_ne hne hk
    rw [joinOperator, bind_ok (peekKeyword_apply ts)]
    generalize nextKeyword ts = first at hk
    split
    all_goals first | exact absurd (hk _ rfl) (by decide) | rfl
  rw [bind_ok hop]
  rfl

/-- The expression after a keyword, where it stands. -/
theorem afterKeyword_full {k : String} {n : Nat} {e : Option Expr} (he : e.all (Expr.fits d) = true) (hn : exprLevels ≤ n + 1)
    (hl : ls.map Lexeme.token = keyed k (e.map Expr.tokens)) (hr : Ends rest) (hk : nextKeyword rest ≠ some k)
    (hb : Unbracketed (ls ++ rest)) : afterKeyword k (rules d false (n + 1)).full (ls ++ rest) = .ok (e, rest) := by
  cases e with
  | none =>
    cases List.map_eq_nil_iff.1 hl
    exact afterKeyword_other hk
  | some e =>
    obtain ⟨l, ls, rfl, ht, hl1⟩ := List.map_eq_cons_iff.1 hl
    have hplain := Expr.isPlain_of_fits he
    have hlevels := Expr.levels_of_fits he
    refine afterKeyword_next (by rw [ht]; rfl) ?_
    exact (readsTo_of_isPlain hplain).full_eq hplain (by omega) hl1 hr hb.tail

theorem joinConstraint_eq {n : Nat} {op : JoinOperator} {f : Factor} {e : Option Expr} (he : e.all (Expr.fits d) = true)
    (hn : exprLevels ≤ n + 1) (hl : ls.map Lexeme.token = keyed "ON" (e.map Expr.tokens)) (hr : EndsIn joinEnds rest)
    (hb : Unbracketed (ls ++ rest)) :
    joinConstraint d (rules d false (n + 1)) false false op f none (ls ++ rest) = .ok (⟨false, op, f, none, e, .none⟩, rest) := by
  cases e with
  | none =>
    cases List.map_eq_nil_iff.1 hl
    refine (bind_ok (takeKeyword_other (hr.nextKeyword_ne (by decide)))).trans ?_
    exact bind_ok (takeKeyword_other (hr.nextKeyword_ne (by decide)))
  | some e =>
    obtain ⟨l, ls, rfl, ht, hl1⟩ := List.map_eq_cons_iff.1 hl
    have hplain := Expr.isPlain_of_fits he
    have hlevels := Expr.levels_of_fits he
    refine (bind_ok (takeKeyword_next (by rw [ht]; rfl))).trans ?_
    exact bind_ok ((readsTo_of_isPlain hplain).full_eq hplain (by omega) hl1 (hr.ends (by decide)) hb.tail)

/-- A plain join is read from its tokens. -/
theorem join_eq {j : Join} {n : Nat} (h : j.isPlain d = true) (hn : exprLevels ≤ n + 1) (hl : ls.map Lexeme.token = j.tokens)
    (hr : EndsIn joinEnds rest) (hb : Unbracketed (ls ++ rest)) :
    join d (rules d false (n + 1)) (ls ++ rest) = .ok (some j, rest) := by
  obtain ⟨isGlobal, op, f, matching, condition, constraint⟩ := j
  simp only [Join.isPlain, Bool.and_eq_true, Bool.not_eq_true', List.isEmpty_eq_false_iff, Bool.or_eq_true, bne_iff_ne,
    Option.isNone_iff_eq_none, beq_iff_eq] at h
  obtain ⟨⟨⟨⟨⟨⟨rfl, hop⟩, hf⟩, rfl⟩, hc⟩, hcross⟩, rfl⟩ := h
  obtain ⟨ls1, ls2, rfl, hl1, hl2⟩ := List.map_eq_append_iff.1 hl
  obtain ⟨ls2, ls3, rfl, hl2, hl3⟩ := List.map_eq_append_iff.1 hl2
  simp only [List.append_assoc] at hb ⊢
  have hfollow : EndsIn relationEnds (ls3 ++ rest) := by
    cases condition with
    | none =>
      cases List.map_eq_nil_iff.1 hl3
      exact hr.mono (by decide)
    | some e =>
      obtain ⟨l, ls, rfl, ht, -⟩ := List.map_eq_cons_iff.1 hl3
      exact endsIn_cons ht (by decide)
  have hrelation := relation_eq (r := rules d false (n + 1)) hf hl2 hfollow
  rw [join_words hop hl1]
  split
  · rename_i hx
    subst hx
    cases hcross.resolve_left (by simp)
    cases List.map_eq_nil_iff.1 hl3
    exact bind_ok hrelation
  · exact bind_ok ((bind_ok hrelation).trans (joinConstraint_eq hc hn hl3 hr hb.right.right))

theorem Join.words_ne_nil {j : Join} (h : j.isPlain d = true) : j.operator.words ≠ [] := by
  simp only [Join.isPlain, Bool.and_eq_true, Bool.not_eq_true', List.isEmpty_eq_false_iff] at h
  exact h.1.1.1.1.1.2

theorem endsIn_joins {joins : List Join} (h : ∀ j ∈ joins, j.isPlain d = true) (hl : ls.map Lexeme.token = joins.flatMap Join.tokens)
    (hr : EndsIn treeEnds rest) (hu : nextKeyword rest ≠ some "USING") : EndsIn joinEnds (ls ++ rest) := by
  cases joins with
  | nil =>
    cases List.map_eq_nil_iff.1 hl
    intro t ht
    rcases hr t ht with rfl | ⟨k, hk, hkey⟩
    · exact .inl rfl
    · have hne : k ≠ "USING" := by
        rintro rfl
        exact hu (by rw [nextKeyword, List.nil_append] at *; rw [ht]; exact hkey)
      simp only [treeEnds, List.mem_cons, List.not_mem_nil, or_false] at hk
      refine .inr ⟨k, ?_, hkey⟩
      rcases hk with rfl | rfl | rfl | rfl
      · decide
      · decide
      · decide
      · exact absurd rfl hne
  | cons j js =>
    rw [List.flatMap_cons, Join.tokens, List.append_assoc] at hl
    obtain ⟨ls1, ls2, rfl, hl1, -⟩ := List.map_eq_append_iff.1 hl
    rw [List.append_assoc]
    exact endsIn_words (Join.words_ne_nil (h j List.mem_cons_self)) hl1

theorem length_le_joins {joins : List Join} (h : ∀ j ∈ joins, j.isPlain d = true) :
    joins.length ≤ (joins.flatMap Join.tokens).length := by
  induction joins with
  | nil => simp
  | cons j js ih =>
    have hpos := List.length_pos_iff.2 (Join.words_ne_nil (h j List.mem_cons_self))
    have := ih fun i hi => h i (List.mem_cons_of_mem _ hi)
    rw [List.flatMap_cons, List.length_append, List.length_cons, Join.tokens, List.length_append, List.length_map]
    omega

theorem many_joins {joins : List Join} {n : Nat} (h : ∀ j ∈ joins, j.isPlain d = true) (hn : exprLevels ≤ n + 1)
    (hl : ls.map Lexeme.token = joins.flatMap Join.tokens) (hr : EndsIn treeEnds rest)
    (hu : joins = [] ∨ nextKeyword rest ≠ some "USING") (hb : Unbracketed (ls ++ rest)) :
    many (join d (rules d false (n + 1))) (ls ++ rest) = .ok (joins, rest) := by
  have hloop : ∀ k, joins.length ≤ k → repeatLoop (join d (rules d false (n + 1))) k (ls ++ rest) = .ok (joins, rest) := by
    induction joins generalizing ls with
    | nil =>
      intro k _
      cases List.map_eq_nil_iff.1 hl
      cases k with
      | zero => rfl
      | succ k => exact bind_ok (join_none hr)
    | cons j js ih =>
      intro k hk
      obtain ⟨k, rfl⟩ : ∃ m, k = m + 1 := ⟨k - 1, by simp at hk; omega⟩
      rw [List.flatMap_cons] at hl
      obtain ⟨ls1, ls2, rfl, hl1, hl2⟩ := List.map_eq_append_iff.1 hl
      rw [List.append_assoc] at hb ⊢
      have hrest : EndsIn joinEnds (ls2 ++ rest) :=
        endsIn_joins (fun i hi => h i (List.mem_cons_of_mem _ hi)) hl2 hr (hu.resolve_left (by simp))
      rw [repeatLoop, bind_ok (join_eq (h j List.mem_cons_self) hn hl1 hrest hb)]
      exact bind_ok (ih (fun i hi => h i (List.mem_cons_of_mem _ hi)) hl2 (.inr (hu.resolve_left (by simp))) hb.right k (by simpa using hk))
  rw [many, bind_ok (remaining_apply _)]
  apply hloop
  have hlength := length_le_joins h
  rw [← hl, List.length_map] at hlength
  rw [List.length_append]
  omega

/-- A plain table and its joins are read from their tokens. -/
theorem tableTree_eq {t : TableTree} {n : Nat} (h : t.isPlain d = true) (hn : exprLevels ≤ n + 1)
    (hl : ls.map Lexeme.token = t.tokens) (hr : EndsIn treeEnds rest) (hu : t.joins = [] ∨ nextKeyword rest ≠ some "USING")
    (hb : Unbracketed (ls ++ rest)) : tableTree d (rules d false (n + 1)) (ls ++ rest) = .ok (t, rest) := by
  obtain ⟨f, joins⟩ := t
  simp only [TableTree.isPlain, Bool.and_eq_true, List.all_eq_true] at h
  rw [TableTree.tokens] at hl
  obtain ⟨ls1, ls2, rfl, hl1, hl2⟩ := List.map_eq_append_iff.1 hl
  rw [List.append_assoc] at hb ⊢
  have hrest : EndsIn relationEnds (ls2 ++ rest) := by
    rcases hu with rfl | hu
    · cases List.map_eq_nil_iff.1 hl2
      exact hr.mono (by decide)
    · exact (endsIn_joins h.2 hl2 hr hu).mono (by decide)
  rw [tableTree, bind_ok (relation_eq h.1 hl1 hrest)]
  exact bind_ok (many_joins h.2 hn hl2 hr hu hb.right)

/-- Plain tables with commas between them. -/
theorem tableList_eq {tables : List TableTree} {n : Nat} (hne : tables ≠ []) (h : tables.all (TableTree.isPlain d) = true)
    (hn : exprLevels ≤ n + 1) (hl : ls.map Lexeme.token = commaTokens (tables.map TableTree.tokens)) (hr : EndsIn treeEnds rest)
    (hc : next rest ≠ some (.symbol ",")) (hu : (∀ t ∈ tables, t.joins = []) ∨ nextKeyword rest ≠ some "USING")
    (hb : Unbracketed (ls ++ rest)) : tableList d (rules d false (n + 1)) (ls ++ rest) = .ok (tables, rest) := by
  rw [List.all_eq_true] at h
  refine Separated.commaList (separated_of_tokens
    (S := fun ts => EndsIn treeEnds ts ∧ ((∀ t ∈ tables, t.joins = []) ∨ nextKeyword ts ≠ some "USING"))
    (fun l ls hl => ⟨endsIn_comma hl, .inr (by simp [nextKeyword, hl, Token.keyword?])⟩) ⟨hr, hu⟩ hc hne ?_ hl hb)
  rintro t ht ls rest hl ⟨hr, hu⟩ hb
  exact tableTree_eq (h t ht) hn hl hr (hu.imp_left fun hu => hu t ht) hb

/-- A keyword with a list of tables after it, or neither. -/
theorem afterKeyword_tables {k : String} {tables : List TableTree} {n : Nat} (h : tables.all (TableTree.isPlain d) = true)
    (hn : exprLevels ≤ n + 1) (hl : ls.map Lexeme.token = listed k (tables.map TableTree.tokens)) (hr : EndsIn treeEnds rest)
    (hc : next rest ≠ some (.symbol ",")) (hu : nextKeyword rest ≠ some "USING") (hk : nextKeyword rest ≠ some k)
    (hb : Unbracketed (ls ++ rest)) :
    afterKeyword k (tableList d (rules d false (n + 1))) (ls ++ rest) =
      .ok (if tables.isEmpty then none else some tables, rest) := by
  cases tables with
  | nil =>
    cases List.map_eq_nil_iff.1 hl
    exact afterKeyword_other hk
  | cons t ts =>
    obtain ⟨l, ls, rfl, ht, hl1⟩ := List.map_eq_cons_iff.1 hl
    exact afterKeyword_next (by rw [ht]; rfl) (tableList_eq (by simp) h hn hl1 hr hc (.inr hu) hb.tail)

end SqlTemplate.Grammar
