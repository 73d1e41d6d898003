/-
Reading plain statements: the grammar gives back every plain statement from its tokens, and so the text that it
prints as is read as that statement and nothing else.
-/
import SqlTemplate.Proofs.Grammar.Table
import SqlTemplate.Template.Parse

namespace SqlTemplate.Grammar

open SqlTemplate.Grammar.Parser
open Lexer (identToken nameTokens isPlainIdent)

variable {d : Dialect} {r : Rules} {ts rest : List Lexeme} {l : Lexeme} {ls : List Lexeme}

/-! ## Selected items -/

/-- Keywords that may follow the selected items. -/
def itemEnds : List String := ["FROM", "WHERE"]

/-- The tokens begin neither with a star nor with a name that ends in one. -/
def Starless (ts : List Lexeme) : Prop :=
  next ts ≠ some (.symbol "*") ∧ ∀ parts n, ∃ rest, starLoop parts n (ts.drop 1) = .ok (none, rest)

theorem starred_expr {e : Expr} (h : Starless ts) (he : r.full ts = .ok (e, rest)) :
    starred r ts = .ok (.expr e, rest) := by
  have hplain : (Starred.expr <$> r.full) ts = .ok (.expr e, rest) := by
    show (r.full ts >>= fun x => pure (Starred.expr x.1, x.2)) = _
    rw [he]
    rfl
  obtain ⟨hstar, hloop⟩ := h
  unfold starred starredBy
  simp only
  split
  · exact absurd rfl hstar
  · exact hplain
  · rename_i ts _ _ i _ _
    obtain ⟨rest', h⟩ := hloop [i] ts.length
    rw [h]
    exact hplain

theorem starLoop_stop (h : next ts ≠ some (.symbol ".")) (parts : List Ident) (n : Nat) :
    starLoop parts n ts = .ok (none, ts) := by
  cases n with
  | zero => rfl
  | succ n => exact bind_ok (takeSymbol_other h)

theorem starless_cons (hl : l.token ≠ .symbol "*") (h : next ls ≠ some (.symbol ".")) : Starless (l :: ls) :=
  ⟨by simpa using hl, fun parts n => ⟨ls, starLoop_stop h parts n⟩⟩

theorem starless_name {i : Ident} {is : List Ident} (hl : ls.map Lexeme.token = nameTokens (i :: is)) (hr : Follow rest) :
    Starless (ls ++ rest) := by
  refine ⟨by rw [next_name hl]; simp [identToken], fun parts n => ?_⟩
  induction is generalizing i ls parts n with
  | nil =>
    obtain ⟨l, rfl, -⟩ := List.map_eq_singleton_iff.1 hl
    exact ⟨rest, starLoop_stop (hr.next_ne (by decide)) parts n⟩
  | cons j is ih =>
    obtain ⟨l, ls1, rfl, -, hl1⟩ := List.map_eq_cons_iff.1 hl
    obtain ⟨p, ls2, rfl, hp, hl2⟩ := List.map_eq_cons_iff.1 hl1
    cases n with
    | zero => exact ⟨_, rfl⟩
    | succ n =>
      obtain ⟨rest', h⟩ := ih hl2 (j :: parts) n
      refine ⟨rest', ?_⟩
      refine (bind_ok (takeSymbol_next hp)).trans ((bind_ok (peek_apply _)).trans ?_)
      have hskip : skip (ls2 ++ rest) = .ok ((), (ls2 ++ rest).drop 1) := rfl
      rw [show (ls2.append rest) = ls2 ++ rest from rfl, next_name hl2]
      exact (bind_ok hskip).trans h

theorem starless_value {v : Value} (hv : v.isPlain d = true) (hl : ls.map Lexeme.token = v.tokens) (hr : Follow rest) :
    Starless (ls ++ rest) := by
  have hone : ∀ {t : Token}, v.tokens = [t] → t ≠ .symbol "*" → Starless (ls ++ rest) := by
    intro t ht hne
    rw [ht] at hl
    obtain ⟨l, rfl, rfl⟩ := List.map_eq_singleton_iff.1 hl
    exact starless_cons hne (hr.next_ne (by decide))
  cases v with
  | boolean | number | string | null | placeholder => exact hone rfl (by simp [kw])
  | _ => cases hv

/-- An expression does not begin with a period, so what stands before it is no name that goes on. -/
theorem starless_before {e : Expr} (he : e.isPlain d = true) (hl : ls.map Lexeme.token = e.tokens) (hne : l.token ≠ .symbol "*")
    (rest : List Lexeme) : Starless (l :: (ls ++ rest)) := by
  obtain ⟨t, hn, ho⟩ := opens_next rest he hl
  refine starless_cons hne ?_
  rw [hn]
  rintro ⟨rfl⟩
  cases ho

/-- Of an operand and what follows it only the operand matters. -/
theorem starless_operand {e : Expr} {us : List Token}
    (he : ∀ ls rest, ls.map Lexeme.token = e.tokens → Follow rest → Starless (ls ++ rest))
    (hus : ∀ ls, ls.map Lexeme.token = us → Follow (ls ++ rest)) (hl : ls.map Lexeme.token = e.tokens ++ us) :
    Starless (ls ++ rest) := by
  obtain ⟨ls1, ls2, rfl, hl1, hl2⟩ := List.map_eq_append_iff.1 hl
  rw [List.append_assoc]
  exact he ls1 _ hl1 (hus ls2 hl2)

theorem follow_notTokens {negated : Bool} {k : String} {us : List Token} (hk : k ∈ ["IN", "BETWEEN", "LIKE", "ILIKE"])
    (hl : ls.map Lexeme.token = notTokens negated ++ kw k :: us) : Follow (ls ++ rest) := by
  obtain ⟨ns, ls2, rfl, hns, hl2⟩ := List.map_eq_append_iff.1 hl
  obtain ⟨m, ls3, rfl, hm, -⟩ := List.map_eq_cons_iff.1 hl2
  rw [List.append_assoc]
  exact follow_negated hns hk hm

/-- No plain expression is taken for a star. -/
theorem starless_expr {e : Expr} (h : e.isPlain d = true) (hl : ls.map Lexeme.token = e.tokens) (hr : Follow rest) :
    Starless (ls ++ rest) := by
  refine Expr.plain_induction (P := fun e => ∀ ls rest, ls.map Lexeme.token = e.tokens → Follow rest → Starless (ls ++ rest))
    ?ident ?compound ?value ?nested ?not ?binary ?test ?inList ?between ?pattern e h ls rest hl hr
  case ident =>
    intro i _ ls rest hl hr
    rw [Expr.tokens] at hl
    exact starless_name (show ls.map Lexeme.token = nameTokens [i] from hl) hr
  case compound => intro i j is _ ls rest hl hr; rw [Expr.tokens] at hl; exact starless_name hl hr
  case value => intro v hv ls rest hl hr; rw [Expr.tokens] at hl; exact starless_value hv hl hr
  case nested =>
    intro e he _ ls rest hl _
    rw [Expr.tokens] at hl
    obtain ⟨l, ls, rfl, ht, hl1⟩ := List.map_eq_cons_iff.1 hl
    obtain ⟨ls1, ls2, rfl, hl1, -⟩ := List.map_eq_append_iff.1 hl1
    rw [List.cons_append, List.append_assoc]
    exact starless_before he hl1 (by simp [ht]) _
  case not =>
    intro e he _ _ ls rest hl _
    rw [Expr.tokens] at hl
    obtain ⟨l, ls, rfl, ht, hl1⟩ := List.map_eq_cons_iff.1 hl
    exact starless_before he hl1 (by simp [ht, kw]) rest
  case binary =>
    intro left op right hop _ ih _ _ _ ls rest hl _
    rw [Expr.tokens] at hl
    refine starless_operand ih (fun ls hl => ?_) hl
    obtain ⟨m, ls, rfl, hm, -⟩ := List.map_eq_cons_iff.1 hl
    exact follow_cons (hm ▸ follows_op hop)
  case test =>
    intro e negated truth ih _ ls rest hl _
    rw [Expr.tokens] at hl
    refine starless_operand ih (fun ls hl => ?_) hl
    obtain ⟨m, ls, rfl, hm, -⟩ := List.map_eq_cons_iff.1 hl
    exact follow_cons (hm ▸ rfl)
  case inList =>
    intro e _ _ ih _ _ _ ls rest hl _
    rw [Expr.tokens] at hl
    exact starless_operand ih (fun ls => follow_notTokens (by decide)) hl
  case between =>
    intro e _ _ _ _ _ ih _ _ _ _ _ _ ls rest hl _
    rw [Expr.tokens] at hl
    exact starless_operand ih (fun ls => follow_notTokens (by decide)) hl
  case pattern =>
    intro e _ family _ hf _ ih _ _ _ ls rest hl _
    rw [Expr.tokens] at hl
    exact starless_operand ih (fun ls => follow_notTokens (by rcases hf with rfl | rfl <;> decide)) hl

theorem itemOf_eq {e : Expr} (h : e.isPlain d = true) (hi : e.isItem d = true) :
    itemOf d e = do return .expr e (← alias? (isColumnAlias d)) := by
  unfold itemOf
  split
  · cases h
  · rw [if_neg (by simpa [Expr.isItem] using hi)]
  · rw [if_neg (by simpa [Expr.isItem] using hi)]
  · rfl

theorem ends_alias {ks : List String} (hsub : ∀ k ∈ ks, k ∈ endKeywords) {i : Option Ident}
    (hl : ls.map Lexeme.token = aliasTokens i) (hr : EndsIn ks rest) : Ends (ls ++ rest) := by
  cases i with
  | none =>
    cases List.map_eq_nil_iff.1 hl
    exact hr.ends hsub
  | some i =>
    obtain ⟨a, ls1, rfl, ha, -⟩ := List.map_eq_cons_iff.1 hl
    exact ends_cons (ha ▸ rfl)

theorem starOptions_none (h : EndsIn itemEnds ts) : starOptions d r ts = .ok ([], ts) := by
  have hp : starPattern ts = .ok (none, ts) := bind_ok (takeKeyword_other (h.nextKeyword_ne (by decide)))
  have hexclude : starExclusion ts = .ok (none, ts) := bind_ok (takeKeyword_other (h.nextKeyword_ne (by decide)))
  have hexcept : starException ts = .ok (none, ts) := bind_ok (takeKeyword_other (h.nextKeyword_ne (by decide)))
  have hreplace : starReplacement r ts = .ok (none, ts) := bind_ok (takeKeyword_other (h.nextKeyword_ne (by decide)))
  have hnames : starNames ts = .ok (none, ts) := bind_ok (takeKeyword_other (h.nextKeyword_ne (by decide)))
  unfold starOptions
  split
  · rw [bind_ok hp]
    exact (bind_ok hexclude).trans ((bind_ok hexcept).trans ((bind_ok hreplace).trans (bind_ok hnames)))
  · rfl

/-- A plain item is read from its tokens. -/
theorem selectItem_eq {i : SelectItem} {n : Nat} (h : i.isPlain d = true) (hn : exprLevels ≤ n + 1)
    (hl : ls.map Lexeme.token = i.tokens) (hr : EndsIn itemEnds rest) (hb : Unbracketed (ls ++ rest)) :
    selectItem d (rules d false (n + 1)) (ls ++ rest) = .ok (i, rest) := by
  cases i with
  | expr e aliasName =>
    simp only [SelectItem.isPlain, Bool.and_eq_true] at h
    have hplain := Expr.isPlain_of_fits h.1.1
    have hlevels := Expr.levels_of_fits h.1.1
    have haccepts : ∀ k ∈ itemEnds, isColumnAlias d (some k) = false := by cases d <;> decide
    rw [SelectItem.tokens] at hl
    obtain ⟨ls1, ls2, rfl, hl1, hl2⟩ := List.map_eq_append_iff.1 hl
    rw [List.append_assoc] at hb ⊢
    have hends : Ends (ls2 ++ rest) := ends_alias (by decide) hl2 hr
    have hfull := (readsTo_of_isPlain hplain).full_eq hplain (by omega : e.levels ≤ n + 1) hl1 hends hb
    rw [selectItem, bind_ok (starred_expr (starless_expr hplain hl1 hends.follow) hfull)]
    simp only [itemOf_eq hplain h.1.2]
    exact bind_ok (alias?_eq haccepts (by decide) hl2 hr)
  | wildcard table options =>
    simp only [SelectItem.isPlain, Bool.and_eq_true, Option.isNone_iff_eq_none, List.isEmpty_iff] at h
    obtain ⟨rfl, rfl⟩ := h
    obtain ⟨⟨t, place⟩, rfl, rfl⟩ := List.map_eq_singleton_iff.1 hl
    have hstar : starred (rules d false (n + 1)) (⟨.symbol "*", place⟩ :: rest) = .ok (.star none, rest) := rfl
    rw [List.singleton_append, selectItem, bind_ok hstar]
    exact bind_ok (starOptions_none hr)

theorem endsList_first {t : Token} (h : opens t = true ∨ t = .symbol "*") : endsList d (some t) = false := by
  rcases h with h | rfl
  · cases t with
    | word w =>
      have hall : ∀ k ∈ openingKeywords, isColumnAlias d (some k) = true := by cases d <;> decide
      cases hk : w.keyword with
      | none => simp [endsList, hk]
      | some k => simpa [endsList, hk] using hall k (by simpa [opens, hk] using h)
    | symbol s =>
      have hs : s = "(" := by simpa [opens] using h
      subst hs
      rfl
    | number | string | placeholder => rfl
    | _ => cases h
  · rfl

theorem next_item {i : SelectItem} (rest : List Lexeme) (h : i.isPlain d = true) (hl : ls.map Lexeme.token = i.tokens) :
    ∃ t, next (ls ++ rest) = some t ∧ (opens t = true ∨ t = .symbol "*") := by
  cases i with
  | expr e aliasName =>
    simp only [SelectItem.isPlain, Bool.and_eq_true] at h
    rw [SelectItem.tokens] at hl
    obtain ⟨ls1, ls2, rfl, hl1, -⟩ := List.map_eq_append_iff.1 hl
    obtain ⟨t, ht, ho⟩ := opens_next (ls2 ++ rest) (Expr.isPlain_of_fits h.1.1) hl1
    exact ⟨t, by rw [List.append_assoc, ht], .inl ho⟩
  | wildcard table options =>
    obtain ⟨l, rfl, ht⟩ := List.map_eq_singleton_iff.1 hl
    exact ⟨.symbol "*", congrArg some ht, .inr rfl⟩

theorem projectionLoop_eq {items : List SelectItem} {n : Nat} (hne : items ≠ []) (h : ∀ i ∈ items, i.isPlain d = true)
    (hn : exprLevels ≤ n + 1) (hl : ls.map Lexeme.token = commaTokens (items.map SelectItem.tokens)) (hr : EndsIn itemEnds rest)
    (hc : next rest ≠ some (.symbol ",")) (hb : Unbracketed (ls ++ rest)) {k : Nat} (hk : items.length ≤ k) :
    projectionLoop d (rules d false (n + 1)) k (ls ++ rest) = .ok (items, rest) := by
  induction items generalizing ls k with
  | nil => exact absurd rfl hne
  | cons i is ih =>
    obtain ⟨k, rfl⟩ : ∃ m, k = m + 1 := ⟨k - 1, by simp at hk; omega⟩
    have hi := h i List.mem_cons_self
    cases is with
    | nil =>
      rw [projectionLoop, bind_ok (selectItem_eq hi hn hl hr hb), bind_ok (takeSymbol_other hc)]
      rfl
    | cons j js =>
      obtain ⟨ls1, ls2, rfl, hl1, hl2⟩ := List.map_eq_append_iff.1 hl
      obtain ⟨c, ls3, rfl, hcomma, hl3⟩ := List.map_eq_cons_iff.1 hl2
      rw [List.append_assoc, List.cons_append] at hb ⊢
      have hread := ih (by simp) (fun x hx => h x (List.mem_cons_of_mem _ hx)) hl3 hb.right.tail (by simpa using hk)
      have hfirst : (d == .generic && endsList d (next (ls3 ++ rest))) = false := by
        obtain ⟨us, hu⟩ := exists_commaTokens_eq j.tokens (js.map SelectItem.tokens)
        rw [hu] at hl3
        obtain ⟨ls4, ls5, rfl, hl4, -⟩ := List.map_eq_append_iff.1 hl3
        obtain ⟨t, ht, hopen⟩ := next_item (ls5 ++ rest) (h j (by simp)) hl4
        rw [List.append_assoc, ht, endsList_first hopen, Bool.and_false]
      rw [projectionLoop, bind_ok (selectItem_eq hi hn hl1 (endsIn_comma hcomma) hb)]
      refine (bind_ok (takeSymbol_next hcomma)).trans ((bind_ok (peek_apply _)).trans ?_)
      rw [hfirst]
      exact bind_ok hread

theorem length_le_commaTokens (items : List (List Token)) : items.length ≤ (commaTokens items).length + 1 := by
  induction items with
  | nil => simp
  | cons a as ih =>
    cases as with
    | nil => simp
    | cons b bs =>
      simp only [commaTokens, List.length_append, List.length_cons] at ih ⊢
      omega

/-- The items of a SELECT, which begin with no keyword that means something else there. -/
theorem projection_eq {items : List SelectItem} {n : Nat} (hne : items ≠ []) (h : ∀ i ∈ items, i.isPlain d = true)
    (hn : exprLevels ≤ n + 1) (hl : ls.map Lexeme.token = commaTokens (items.map SelectItem.tokens)) (hr : EndsIn itemEnds rest)
    (hc : next rest ≠ some (.symbol ",")) (hb : Unbracketed (ls ++ rest)) :
    (∀ k ∈ nextKeyword (ls ++ rest), k ∈ openingKeywords) ∧
      projection d (rules d false (n + 1)) (ls ++ rest) = .ok (items, rest) := by
  have hk : ∀ k ∈ nextKeyword (ls ++ rest), k ∈ openingKeywords := by
    obtain ⟨i, is, rfl⟩ := List.exists_cons_of_ne_nil hne
    obtain ⟨us, hu⟩ := exists_commaTokens_eq i.tokens (is.map SelectItem.tokens)
    rw [List.map_cons, hu] at hl
    obtain ⟨ls1, ls2, rfl, hl1, -⟩ := List.map_eq_append_iff.1 hl
    obtain ⟨t, ht, ho⟩ := next_item (ls2 ++ rest) (h i List.mem_cons_self) hl1
    rw [List.append_assoc]
    rcases ho with ho | rfl
    · exact mem_openingKeywords ht ho
    · rw [nextKeyword, ht]
      intro k hk
      cases hk
  refine ⟨hk, ?_⟩
  have hfrom : nextKeyword (ls ++ rest) ≠ some "FROM" := fun he => absurd (hk _ he) (by decide)
  have hlength : items.length ≤ (ls ++ rest).length + 1 := by
    have hc := length_le_commaTokens (items.map SelectItem.tokens)
    rw [← hl, List.length_map, List.length_map] at hc
    rw [List.length_append]
    omega
  rw [projection, bind_ok (nextIsKeyword_other hfrom), Bool.and_false]
  exact (bind_ok (remaining_apply _)).trans (projectionLoop_eq hne h hn hl hr hc hb hlength)

theorem clausesBeforeWhere_none (h : EndsIn ["WHERE"] ts) : clausesBeforeWhere d r ts = .ok ([], ts) := by
  have hview : lateralView d r ts = .ok (none, ts) := afterKeywords_other (h.nextKeyword_ne (by decide))
  have hviews : many (lateralView d r) ts = .ok ([], ts) := by
    rw [many, bind_ok (remaining_apply ts)]
    cases ts.length with
    | zero => rfl
    | succ n => exact bind_ok hview
  have hearly : afterKeyword "PREWHERE" r.full ts = .ok (none, ts) := afterKeyword_other (h.nextKeyword_ne (by decide))
  rw [clausesBeforeWhere, bind_ok hviews]
  split
  · exact bind_ok hearly
  · rfl

/-- The tokens begin with a keyword from a list, or there are none. -/
def Begins (ks : List String) (ts : List Lexeme) : Prop := ∀ t ∈ next ts, ∃ k ∈ ks, t.keyword? = some k

theorem Begins.endsIn {ks ks' : List String} (h : Begins ks ts) (hsub : ∀ k ∈ ks, k ∈ ks') : EndsIn ks' ts := by
  intro t ht
  obtain ⟨k, hk, hkey⟩ := h t ht
  exact .inr ⟨k, hsub k hk, hkey⟩

theorem Begins.next_ne {ks : List String} (h : Begins ks ts) (s : String) : next ts ≠ some (.symbol s) := by
  intro he
  obtain ⟨k, -, hkey⟩ := h _ he
  cases hkey

theorem Begins.nextKeyword_ne {ks : List String} (h : Begins ks ts) {k : String} (hk : k ∉ ks) : nextKeyword ts ≠ some k :=
  (h.endsIn fun _ hk => hk).nextKeyword_ne hk

theorem Begins.mono {ks ks' : List String} (h : Begins ks ts) (hsub : ∀ k ∈ ks, k ∈ ks') : Begins ks' ts := by
  intro t ht
  obtain ⟨k, hk, hkey⟩ := h t ht
  exact ⟨k, hsub k hk, hkey⟩

theorem begins_cons {ks : List String} {k : String} (hl : l.token = kw k) (hk : k ∈ ks) : Begins ks (l :: ls) := by
  intro t ht
  rw [next_cons, Option.mem_some_iff] at ht
  exact ⟨k, hk, by rw [← ht, hl]; rfl⟩

theorem begins_keyed {k : String} {tokens : Option (List Token)} (hl : ls.map Lexeme.token = keyed k tokens) : Begins [k] ls := by
  cases tokens with
  | none =>
    cases List.map_eq_nil_iff.1 hl
    intro t ht
    cases ht
  | some us =>
    obtain ⟨l, ls, rfl, ht, -⟩ := List.map_eq_cons_iff.1 hl
    exact begins_cons ht (by simp)

theorem begins_listed {k : String} {ks : List String} {items : List (List Token)} (hl : ls.map Lexeme.token = listed k items)
    (hr : Begins ks rest) : Begins (k :: ks) (ls ++ rest) := by
  cases items with
  | nil =>
    cases List.map_eq_nil_iff.1 hl
    exact hr.mono fun k hk => List.mem_cons_of_mem _ hk
  | cons i is =>
    obtain ⟨l, ls, rfl, ht, -⟩ := List.map_eq_cons_iff.1 hl
    exact begins_cons ht (by simp)

/-- The condition at the end of a statement. -/
theorem where_eq {n : Nat} {e : Option Expr} (he : e.all (Expr.fits d) = true) (hn : exprLevels ≤ n + 1)
    (hl : ls.map Lexeme.token = keyed "WHERE" (e.map Expr.tokens)) (hb : Unbracketed ls) :
    afterKeyword "WHERE" (rules d false (n + 1)).full ls = .ok (e, []) := by
  rw [← List.append_nil ls] at hb ⊢
  exact afterKeyword_full he hn hl ends_nil (by simp [nextKeyword]) hb

theorem getD_tables (tables : List TableTree) : (if tables.isEmpty then none else some tables).getD [] = tables := by
  cases tables <;> rfl

/-- A plain SELECT is read from its tokens. -/
theorem select_eq {s : Select} {n : Nat} (h : s.isPlain d = true) (hn : exprLevels ≤ n + 1) (hl : ls.map Lexeme.token = s.tokens)
    (hb : Unbracketed ls) : select d (rules d false (n + 1)) ls = .ok (s, []) := by
  obtain ⟨tablesFirst, quantifiers, projection, into, tables, beforeWhere, selection, grouping, having, windows⟩ := s
  simp only [Select.isPlain, Bool.and_eq_true, Bool.not_eq_true', List.isEmpty_iff, List.isEmpty_eq_false_iff,
    Option.isNone_iff_eq_none] at h
  obtain ⟨⟨⟨⟨⟨⟨⟨⟨⟨⟨rfl, rfl⟩, hne⟩, hitems⟩, rfl⟩, htables⟩, rfl⟩, hwhere⟩, rfl⟩, rfl⟩, rfl⟩ := h
  rw [List.all_eq_true] at hitems
  rw [Select.tokens] at hl
  obtain ⟨l, ls, rfl, ht, hl⟩ := List.map_eq_cons_iff.1 hl
  obtain ⟨ls1, ls2, rfl, hl1, hl2⟩ := List.map_eq_append_iff.1 hl
  obtain ⟨ls2, ls3, rfl, hl2', hl3⟩ := List.map_eq_append_iff.1 hl2
  have hends3 : Begins ["WHERE"] ls3 := begins_keyed hl3
  have hends2 : Begins itemEnds (ls2 ++ ls3) := begins_listed hl2' hends3
  obtain ⟨hfirst, hprojection⟩ :=
    projection_eq hne hitems hn hl1 (hends2.endsIn fun _ hk => hk) (hends2.next_ne ",") hb.tail
  have hopening : ∀ {k : String}, k ∉ openingKeywords → nextKeyword (ls1 ++ (ls2 ++ ls3)) ≠ some k := fun h he => h (hfirst _ he)
  have hselect : l.token.keyword? = some "SELECT" := by rw [ht]; rfl
  have hfrom : nextKeyword (l :: (ls1 ++ (ls2 ++ ls3))) ≠ some "FROM" := by
    rw [nextKeyword, next_cons, Option.bind_some, hselect]
    decide
  have hdistinct : distinct (rules d false (n + 1)) (ls1 ++ (ls2 ++ ls3)) = .ok (none, ls1 ++ (ls2 ++ ls3)) := by
    refine (bind_ok (p := place) rfl).trans ((bind_ok (takeKeyword_other (hopening (by decide)))).trans ?_)
    exact bind_ok (takeKeyword_other (hopening (by decide)))
  have hlist := afterKeyword_tables (k := "FROM") htables hn hl2' (hends3.endsIn (by decide)) (hends3.next_ne ",")
    (hends3.nextKeyword_ne (by decide)) (hends3.nextKeyword_ne (by decide)) hb.tail.right
  refine (bind_ok (takeKeyword_other hfrom)).trans ?_
  refine (bind_ok (expectKeyword_next hselect)).trans ?_
  refine (bind_ok hdistinct).trans ?_
  refine (bind_ok (afterKeyword_other (hopening (by decide)))).trans ?_
  refine (bind_ok hprojection).trans ?_
  refine (bind_ok (afterKeyword_other (hends2.nextKeyword_ne (by decide)))).trans ?_
  refine (bind_ok hlist).trans ?_
  simp only [pure_bind, getD_tables]
  rw [bind_ok (clausesBeforeWhere_none (hends3.endsIn fun _ hk => hk)), bind_ok (where_eq hwhere hn hl3 hb.tail.right.right)]
  cases d <;> rfl

/-! ## UPDATE and DELETE -/

theorem assignment_eq {a : Assignment} {n : Nat} (h : a.isPlain d = true) (hn : exprLevels ≤ n + 1)
    (hl : ls.map Lexeme.token = a.tokens) (hr : EndsIn itemEnds rest) (hb : Unbracketed (ls ++ rest)) :
    assignment d (rules d false (n + 1)) (ls ++ rest) = .ok (a, rest) := by
  obtain ⟨target, value⟩ := a
  simp only [Assignment.isPlain, Bool.and_eq_true] at h
  cases target with
  | row names => cases h.1
  | column name =>
    have hplain := Expr.isPlain_of_fits h.2
    have hlevels := Expr.levels_of_fits h.2
    have hname := h.1
    simp only [isPlainName, Bool.and_eq_true, Bool.not_eq_true', List.isEmpty_eq_false_iff] at hname
    rw [Assignment.tokens] at hl
    obtain ⟨ls1, ls2, rfl, hl1, hl2⟩ := List.map_eq_append_iff.1 hl
    obtain ⟨m, ls2, rfl, hm, hl2⟩ := List.map_eq_cons_iff.1 hl2
    rw [List.append_assoc, List.cons_append] at hb ⊢
    have htarget : assignmentTarget d (ls1 ++ m :: (ls2 ++ rest)) = .ok (.column name, m :: (ls2 ++ rest)) := by
      obtain ⟨i, is, rfl⟩ := List.exists_cons_of_ne_nil hname.1
      have hparen : next (ls1 ++ m :: (ls2 ++ rest)) ≠ some (.symbol "(") := by rw [next_name hl1]; simp [identToken]
      refine (bind_ok (nextIsSymbol_other hparen)).trans ?_
      exact bind_ok (objectName_eq (by simp) hl1 (by simp [hm]))
    rw [assignment, bind_ok htarget, bind_ok (expectSymbol_next hm)]
    exact bind_ok ((readsTo_of_isPlain hplain).full_eq hplain (by omega) hl2 (hr.ends (by decide)) hb.right.tail)

theorem assignments_eq {as : List Assignment} {n : Nat} (hne : as ≠ []) (h : as.all (Assignment.isPlain d) = true)
    (hn : exprLevels ≤ n + 1) (hl : ls.map Lexeme.token = commaTokens (as.map Assignment.tokens)) (hr : Begins itemEnds rest)
    (hb : Unbracketed (ls ++ rest)) : assignments d (rules d false (n + 1)) (ls ++ rest) = .ok (as, rest) := by
  rw [List.all_eq_true] at h
  refine Separated.commaList (separated_of_tokens (S := EndsIn itemEnds) (fun l ls hl => endsIn_comma hl)
    (hr.endsIn fun _ hk => hk) (hr.next_ne ",") hne ?_ hl hb)
  intro a ha ls rest hl hr hb
  exact assignment_eq (h a ha) hn hl hr hb

theorem nextKeyword_tree {t : TableTree} (h : t.isPlain d = true) (hl : ls.map Lexeme.token = t.tokens) (rest : List Lexeme) :
    nextKeyword (ls ++ rest) = none := by
  obtain ⟨f, joins⟩ := t
  simp only [TableTree.isPlain, Bool.and_eq_true] at h
  obtain ⟨name, i, rfl, hn, -⟩ := Factor.eq_of_isPlain h.1
  rw [TableTree.tokens, Factor.tokens, List.append_assoc] at hl
  obtain ⟨ls1, ls2, rfl, hl1, -⟩ := List.map_eq_append_iff.1 hl
  obtain ⟨i, is, rfl⟩ := exists_eq_cons_of_isPlainName hn
  rw [List.append_assoc, nextKeyword, next_name hl1]
  rfl

theorem conflictClause_none (h : nextKeyword ts = none) : conflictClause ts = .ok (none, ts) := by
  rw [conflictClause, bind_ok (peekKeyword_apply ts), h]
  rfl

/-- A plain UPDATE is read from its tokens after the first. -/
theorem update_eq {u : Update} {n : Nat} (h : u.isPlain d = true) (hn : exprLevels ≤ n + 1)
    (hl : kw "UPDATE" :: ls.map Lexeme.token = u.tokens) (hb : Unbracketed ls) :
    update d (rules d false (n + 1)) ls = .ok (u, []) := by
  obtain ⟨conflict, table, sources, sourcesFirst, assignments, selection, returning⟩ := u
  simp only [Update.isPlain, Bool.and_eq_true, Bool.not_eq_true', List.isEmpty_iff, List.isEmpty_eq_false_iff, Bool.or_eq_true,
    Option.isNone_iff_eq_none] at h
  obtain ⟨⟨⟨⟨⟨⟨⟨rfl, ht⟩, hs⟩, hfirst⟩, hne⟩, ha⟩, hwhere⟩, rfl⟩ := h
  rw [Update.tokens, List.cons.injEq] at hl
  obtain ⟨ls1, ls2, rfl, hl1, hl2⟩ := List.map_eq_append_iff.1 hl.2
  obtain ⟨ls2, ls3, rfl, hl2', hl3⟩ := List.map_eq_append_iff.1 hl2
  obtain ⟨m, ls3, rfl, hm, hl3'⟩ := List.map_eq_cons_iff.1 hl3
  obtain ⟨ls3, ls4, rfl, hl3'', hl4⟩ := List.map_eq_append_iff.1 hl3'
  obtain ⟨ls4, ls5, rfl, hl4', hl5⟩ := List.map_eq_append_iff.1 hl4
  have hset : Begins ["SET"] (m :: (ls3 ++ (ls4 ++ ls5))) := begins_cons hm (by simp)
  have hends5 : Begins ["WHERE"] ls5 := begins_keyed hl5
  have hkeyword : m.token.keyword? = some "SET" := by rw [hm]; rfl
  have hwhere' := where_eq hwhere hn hl5 hb.right.right.tail.right.right
  rw [update, bind_ok (conflictClause_none (nextKeyword_tree ht hl1 _))]
  -- the FROM list stands before SET or after it
  cases sourcesFirst with
  | true =>
    cases List.map_eq_nil_iff.1 hl4'
    have hne' : sources ≠ [] := hfirst.resolve_left (by simp)
    have hends2 : Begins ["FROM", "SET"] (ls2 ++ m :: (ls3 ++ ls5)) := begins_listed hl2' hset
    have htree := tableTree_eq ht hn hl1 (hends2.endsIn (by decide)) (.inr (hends2.nextKeyword_ne (by decide))) hb
    have hearly := afterKeyword_tables (k := "FROM") hs hn hl2' (hset.endsIn (by decide)) (hset.next_ne ",")
      (hset.nextKeyword_ne (by decide)) (hset.nextKeyword_ne (by decide)) hb.right
    rw [if_neg (by simpa using hne')] at hearly
    have hsets := assignments_eq hne ha hn hl3'' (hends5.mono (by decide)) hb.right.right.tail
    refine (bind_ok htree).trans ((bind_ok hearly).trans ((bind_ok (expectKeyword_next hkeyword)).trans ?_))
    refine (bind_ok hsets).trans ?_
    simp only [Option.isNone_some, Bool.false_eq_true, if_false, pure_bind]
    exact bind_ok hwhere'
  | false =>
    cases List.map_eq_nil_iff.1 hl2'
    have htree := tableTree_eq ht hn hl1 (hset.endsIn (by decide)) (.inr (hset.nextKeyword_ne (by decide))) hb
    have hends4 : Begins itemEnds (ls4 ++ ls5) := begins_listed hl4' hends5
    have hsets := assignments_eq hne ha hn hl3'' hends4 hb.right.tail
    have hlate := afterKeyword_tables (k := "FROM") hs hn hl4' (hends5.endsIn (by decide)) (hends5.next_ne ",")
      (hends5.nextKeyword_ne (by decide)) (hends5.nextKeyword_ne (by decide)) hb.right.tail.right
    have hearly : afterKeyword "FROM" (tableList d (rules d false (n + 1))) (m :: (ls3 ++ (ls4 ++ ls5))) = .ok (none, _) :=
      afterKeyword_other (hset.nextKeyword_ne (by decide))
    refine (bind_ok htree).trans ((bind_ok hearly).trans ((bind_ok (expectKeyword_next hkeyword)).trans ?_))
    refine (bind_ok hsets).trans ((bind_ok hlate).trans ((bind_ok hwhere').trans ?_))
    simp only [Option.getD_none, getD_tables]
    rfl

theorem deleteTargets_eq {targets : List ObjectName} {m : Lexeme} (ht : targets = [] ∨ d ≠ .generic)
    (hn : ∀ t ∈ targets, isPlainName d t = true) (hl : ls.map Lexeme.token = commaTokens (targets.map nameTokens))
    (hm : m.token = kw "FROM") (hb : Unbracketed (ls ++ m :: rest)) :
    deleteTargets d (ls ++ m :: rest) = .ok ((targets, true), rest) := by
  have hfrom : m.token.keyword? = some "FROM" := by rw [hm]; rfl
  cases targets with
  | nil =>
    cases List.map_eq_nil_iff.1 hl
    exact bind_ok (takeKeyword_next hfrom)
  | cons t ts =>
    have hd : (d == .generic) = false := by simpa using ht
    have hnext : nextKeyword (ls ++ m :: rest) ≠ some "FROM" := by
      obtain ⟨us, hu⟩ := exists_commaTokens_eq (nameTokens t) (ts.map nameTokens)
      rw [List.map_cons, hu] at hl
      obtain ⟨ls1, ls2, rfl, hl1, -⟩ := List.map_eq_append_iff.1 hl
      obtain ⟨i, is, rfl⟩ := exists_eq_cons_of_isPlainName (hn t List.mem_cons_self)
      rw [List.append_assoc, nextKeyword, next_name hl1]
      simp [identToken, Token.keyword?]
    have hlist : commaList (objectName d) (ls ++ m :: rest) = .ok (t :: ts, m :: rest) := by
      refine Separated.commaList (separated_of_tokens (S := fun ts => next ts ≠ some (.symbol "."))
        (fun l ls hl => by simp [hl]) (by simp [hm, kw]) (by simp [hm, kw]) (by simp) ?_ hl hb)
      intro name hname ls rest hl hr _
      have hplain := hn name hname
      simp only [isPlainName, Bool.and_eq_true, Bool.not_eq_true', List.isEmpty_eq_false_iff] at hplain
      exact objectName_eq hplain.1 hl hr
    refine (bind_ok (takeKeyword_other hnext)).trans ?_
    simp only [Bool.false_eq_true, if_false, hd]
    exact (bind_ok hlist).trans (bind_ok (expectKeyword_next hfrom))

/-- A plain DELETE is read from its tokens after the first. -/
theorem delete_eq {x : Delete} {n : Nat} (h : x.isPlain d = true) (hn : exprLevels ≤ n + 1)
    (hl : kw "DELETE" :: ls.map Lexeme.token = x.tokens) (hb : Unbracketed ls) :
    delete d (rules d false (n + 1)) ls = .ok (x, []) := by
  obtain ⟨targets, fromKeyword, tables, usingTables, selection, returning, clauses⟩ := x
  simp only [Delete.isPlain, Bool.and_eq_true, Bool.not_eq_true', List.isEmpty_iff, List.isEmpty_eq_false_iff, Bool.or_eq_true,
    bne_iff_ne, List.all_eq_true] at h
  obtain ⟨⟨⟨⟨⟨⟨⟨⟨⟨htargets, hnames⟩, rfl⟩, hne⟩, ht⟩, hu⟩, hjoins⟩, hwhere⟩, rfl⟩, rfl⟩ := h
  rw [Delete.tokens, List.cons.injEq] at hl
  obtain ⟨ls1, ls2, rfl, hl1, hl2⟩ := List.map_eq_append_iff.1 hl.2
  obtain ⟨m, ls2, rfl, hm, hl2'⟩ := List.map_eq_cons_iff.1 hl2
  obtain ⟨ls2, ls3, rfl, hl2'', hl3⟩ := List.map_eq_append_iff.1 hl2'
  obtain ⟨ls3, ls4, rfl, hl3', hl4⟩ := List.map_eq_append_iff.1 hl3
  have hends4 : Begins ["WHERE"] ls4 := begins_keyed hl4
  have hends3 : Begins ["USING", "WHERE"] (ls3 ++ ls4) := begins_listed hl3' hends4
  have husing : (∀ t ∈ tables, t.joins = []) ∨ nextKeyword (ls3 ++ ls4) ≠ some "USING" := by
    rcases hjoins with rfl | hjoins
    · cases List.map_eq_nil_iff.1 hl3'
      exact .inr (hends4.nextKeyword_ne (by decide))
    · exact .inl hjoins
  have htables := tableList_eq hne (List.all_eq_true.2 ht) hn hl2'' (hends3.endsIn (by decide)) (hends3.next_ne ",") husing
    hb.right.tail
  have hothers := afterKeyword_tables (k := "USING") (List.all_eq_true.2 hu) hn hl3' (hends4.endsIn (by decide))
    (hends4.next_ne ",") (hends4.nextKeyword_ne (by decide)) (hends4.nextKeyword_ne (by decide)) hb.right.tail.right
  refine (bind_ok (deleteTargets_eq htargets hnames hl1 hm hb)).trans ((bind_ok htables).trans ((bind_ok hothers).trans ?_))
  refine (bind_ok (where_eq hwhere hn hl4 hb.right.tail.right.right)).trans ?_
  simp only [getD_tables]
  rfl

end SqlTemplate.Grammar
