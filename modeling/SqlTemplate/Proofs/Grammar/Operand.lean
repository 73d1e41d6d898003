/-
Reading the operands of plain expressions. Before an operand the grammar looks for a type with a literal after
it, which no plain expression begins with; after one it looks for what may be reached from it, which nothing
that follows a plain expression begins.
-/
import SqlTemplate.Proofs.Grammar.Steps
import SqlTemplate.Proofs.Tree.Plain

namespace SqlTemplate.Grammar

open SqlTemplate.Grammar.Parser
open Lexer (identToken nameTokens isPlainIdent)

variable {d : Dialect} {r : Rules} {ts rest : List Lexeme}

/-! ## No type before an operand -/

theorem flat_ident : Flat ident := by
  refine flat_peek.bind fun t => ?_
  split
  · exact flat_skip.bind fun _ => flat_pure _
  · exact flat_skip.bind fun _ => flat_pure _
  · exact flat_skip.bind fun _ => flat_pure _
  · exact flat_unexpected

theorem flat_nameLoop (n : Nat) : Flat (nameLoop n) := by
  induction n with
  | zero => exact flat_pure _
  | succ n ih =>
    refine flat_ident.bind fun i => (flat_takeIf _).bind fun b => ?_
    split
    · exact ih.bind fun _ => flat_pure _
    · exact flat_pure _

theorem flat_objectName (d : Dialect) : Flat (objectName d) := by
  refine flat_remaining.bind fun n => flat_ident.bind fun i => (flat_takeIf _).bind fun b => ?_
  split
  · refine Flat.bind ?_ fun b => ?_
    · unfold takeWhere
      split
      · exact flat_takeIf _
      · exact flat_pure _
    · split
      · exact (flat_nameLoop _).bind fun _ => flat_pure _
      · exact (flat_nameLoop _).bind fun _ => flat_pure _
  · exact flat_pure _

theorem flat_modifierLoop (n : Nat) : Flat (modifierLoop n) := by
  induction n with
  | zero => exact flat_unexpected
  | succ n ih =>
    refine flat_peek.bind fun t => ?_
    split
    · exact flat_skip.bind fun _ => ih.bind fun _ => flat_pure _
    · exact flat_skip.bind fun _ => ih.bind fun _ => flat_pure _
    · exact flat_skip.bind fun _ => ih.bind fun _ => flat_pure _
    · exact flat_skip.bind fun _ => ih
    · exact flat_skip.bind fun _ => flat_pure _
    · exact flat_unexpected

/-- A type that no keyword names is one of the user's. -/
theorem customType_cases (d : Dialect) (ts : List Lexeme) :
    (∃ text rest, customType d ts = .ok (⟨text, .custom⟩, rest) ∧ ∀ l ∈ rest, l ∈ ts) ∨ Fails (customType d) ts := by
  rcases (flat_objectName d).cases ts with ⟨name, rest, h1, hk1⟩ | hf
  · obtain ⟨b, rest2, h2, hk2⟩ : ∃ b rest2, takeSymbol "(" rest = .ok (b, rest2) ∧ ∀ l ∈ rest2, l ∈ rest := takeIf_cases _ _
    have hlast : ∀ modifiers rest3, ∃ text, (if modifiers.isEmpty then pure ⟨ObjectName.print name, .custom⟩ else
        pure ⟨ObjectName.print name ++ "(" ++ Text.commas modifiers ++ ")", .custom⟩ : Parser DataType) rest3 =
        .ok (⟨text, .custom⟩, rest3) := by
      intro modifiers rest3
      split
      · exact ⟨_, rfl⟩
      · exact ⟨_, rfl⟩
    cases b with
    | false =>
      obtain ⟨text, h3⟩ := hlast [] rest2
      refine .inl ⟨text, rest2, ?_, fun l hl => hk1 l (hk2 l hl)⟩
      rw [customType, bind_ok h1, bind_ok h2]
      exact h3
    | true =>
      rcases (flat_modifierLoop rest2.length).cases rest2 with ⟨modifiers, rest3, h3, hk3⟩ | hf
      · obtain ⟨text, h4⟩ := hlast modifiers rest3
        refine .inl ⟨text, rest3, ?_, fun l hl => hk1 l (hk2 l (hk3 l hl))⟩
        rw [customType, bind_ok h1, bind_ok h2]
        exact (bind_ok (remaining_apply _)).trans ((bind_ok h3).trans h4)
      · refine .inr (Fails.bind h1 (Fails.bind h2 ?_))
        exact Fails.bind (remaining_apply _) hf.bind_left
  · exact .inr hf.bind_left

theorem builtinType_none (d : Dialect) (r : Rules) {k : String} (h : k ∈ openingKeywords) (ts : List Lexeme) :
    builtinType d r k ts = .ok (none, ts) := by
  simp only [openingKeywords, List.mem_cons, List.not_mem_nil, or_false] at h
  rcases h with rfl | rfl | rfl | rfl <;> cases d <;> rfl

theorem simpleType_cases (d : Dialect) (r : Rules) {ts : List Lexeme} (ho : ∀ t ∈ next ts, opens t = true) :
    (∃ text rest, simpleType d r ts = .ok (⟨⟨text, .custom⟩, false⟩, rest) ∧ ∀ l ∈ rest, l ∈ ts) ∨ Fails (simpleType d r) ts := by
  have hcustom : ∀ {q : Parser OpenType}, q ts = (do return ⟨← customType d, false⟩ : Parser OpenType) ts →
      (∃ text rest, q ts = .ok (⟨⟨text, .custom⟩, false⟩, rest) ∧ ∀ l ∈ rest, l ∈ ts) ∨ Fails q ts := by
    intro q hq
    rcases customType_cases d ts with ⟨text, rest, h, hk⟩ | hf
    · exact .inl ⟨text, rest, by rw [hq, bind_ok h]; rfl, hk⟩
    · right
      rw [Fails, hq]
      exact hf.bind_left
  cases hn : next ts with
  | none =>
    refine .inr (Fails.bind (peek_apply ts) ?_)
    rw [hn]
    exact fails_unexpected ts
  | some t =>
    have hopen := ho t hn
    cases t with
    | word w =>
      apply hcustom
      rw [simpleType, bind_ok (peek_apply ts), hn]
      cases hk : w.keyword with
      | none => simp only [hk]
      | some k =>
        have hmem : k ∈ openingKeywords := by simpa [opens, hk] using hopen
        have hnone := builtinType_none d r hmem ts
        simp only [openingKeywords, List.mem_cons, List.not_mem_nil, or_false] at hmem
        rcases hmem with rfl | rfl | rfl | rfl <;> (simp only [hk]; exact bind_ok hnone)
    | _ =>
      refine .inr (Fails.bind (peek_apply ts) ?_)
      rw [hn]
      exact fails_unexpected ts

/-- The tokens hold no bracket, so that no type among them is an array. -/
def Unbracketed (ts : List Lexeme) : Prop := ∀ l ∈ ts, l.token ≠ .symbol "["

theorem Unbracketed.next_ne (h : Unbracketed ts) : next ts ≠ some (.symbol "[") := by
  cases ts with
  | nil => simp
  | cons l ls => simpa using h l List.mem_cons_self

theorem Unbracketed.tail {l : Lexeme} (h : Unbracketed (l :: ts)) : Unbracketed ts := fun m hm => h m (List.mem_cons_of_mem l hm)

theorem Unbracketed.right {ls : List Lexeme} (h : Unbracketed (ls ++ ts)) : Unbracketed ts :=
  fun m hm => h m (List.mem_append_right ls hm)

theorem many_arraySuffix (h : Unbracketed ts) : many arraySuffix ts = .ok ([], ts) := by
  have hs : arraySuffix ts = .ok (none, ts) := by
    rw [arraySuffix, bind_ok (takeSymbol_other h.next_ne)]
    rfl
  rw [many, bind_ok (remaining_apply _)]
  cases hl : ts.length with
  | zero => rfl
  | succ n => rw [repeatLoop, bind_ok hs]; rfl

/-- No plain expression begins with a type and a literal. -/
theorem fails_typedLiteral (d : Dialect) (n : Nat) (ho : ∀ t ∈ next ts, opens t = true) (hb : Unbracketed ts) :
    Fails (typedLiteral d (rules d false (n + 1))) ts := by
  rcases simpleType_cases d (rules d false n) ho with ⟨text, rest, h, hk⟩ | hf
  · have hopen : openType d (rules d false n) ts = .ok (⟨⟨text, .custom⟩, false⟩, rest) := by
      rw [openType, bind_ok h]
      split
      · rw [bind_ok (many_arraySuffix fun l hl => hb l (hk l hl))]
        rfl
      · rfl
    have htype : (rules d false (n + 1)).dataType ts = .ok (⟨text, .custom⟩, rest) := by
      rw [Rules.dataType]
      exact bind_ok hopen
    exact Fails.bind htype (fails_unexpected rest)
  · exact Fails.bind_left (Fails.bind_left hf.bind_left)

/-- Items that the rule reads one by one, if only a comma or what follows the last one is next. -/
theorem separated_of_tokens {α : Type} {p : Parser α} {g : α → List Token} {S : List Lexeme → Prop}
    (hcomma : ∀ l ls, l.token = .symbol "," → S (l :: ls)) (hrest : S rest) (hnext : next rest ≠ some (.symbol ","))
    {items : List α} (hne : items ≠ []) {ls : List Lexeme}
    (h : ∀ a ∈ items, ∀ ls rest, ls.map Lexeme.token = g a → S rest → Unbracketed (ls ++ rest) → p (ls ++ rest) = .ok (a, rest))
    (hl : ls.map Lexeme.token = commaTokens (items.map g)) (hb : Unbracketed (ls ++ rest)) :
    Separated p (ls ++ rest) items rest := by
  induction items generalizing ls with
  | nil => exact absurd rfl hne
  | cons a as ih =>
    have ha := h a List.mem_cons_self
    cases as with
    | nil => exact .one (ha ls rest hl hrest hb) hnext
    | cons b bs =>
      obtain ⟨ls1, ls2, rfl, hl1, hl2⟩ := List.map_eq_append_iff.1 hl
      obtain ⟨c, ls3, rfl, hc, hl3⟩ := List.map_eq_cons_iff.1 hl2
      rw [List.append_assoc] at hb ⊢
      refine .more (ha ls1 _ hl1 (hcomma c _ hc) hb) hc (by simp only [List.append_eq, List.length_append, List.length_cons]; omega) ?_
      exact ih (by simp) (fun x hx => h x (List.mem_cons_of_mem _ hx)) hl3 hb.right.tail

/-! ## What follows an operand -/

/-- Symbols and keywords that may follow a plain expression. -/
def followSymbols : List String := [")", ",", "=", "<>", "<", ">", "<=", ">=", "+", "-", "*", "/", "%", "||"]

def followKeywords : List String :=
  ["AND", "OR", "NOT", "IS", "IN", "BETWEEN", "LIKE", "ILIKE", "FROM", "WHERE", "AS", "ON", "JOIN", "INNER", "LEFT", "RIGHT",
   "FULL", "CROSS", "SET", "USING"]

def follows : Token → Bool
  | .symbol s => followSymbols.contains s
  | .word w => w.keyword.any followKeywords.contains
  | _ => false

/-- The tokens begin with what may follow a plain operand: a period, or what may follow an expression. -/
def Quiet (ts : List Lexeme) : Prop := ∀ t ∈ next ts, t = .symbol "." ∨ follows t = true

/-- The tokens begin with what may follow a plain expression. -/
def Follow (ts : List Lexeme) : Prop := ∀ t ∈ next ts, follows t = true

theorem Follow.quiet (h : Follow ts) : Quiet ts := fun t ht => .inr (h t ht)

theorem Quiet.next_ne (h : Quiet ts) {s : String} (hs : s ∉ "." :: followSymbols) : next ts ≠ some (.symbol s) := by
  intro he
  simp only [List.mem_cons, not_or] at hs
  rcases h _ he with he | he
  · exact hs.1 (Token.symbol.inj he)
  · exact hs.2 (by simpa [follows] using he)

theorem Follow.next_ne (h : Follow ts) {s : String} (hs : s ∉ followSymbols) : next ts ≠ some (.symbol s) := by
  intro he
  exact hs (by simpa [follows] using h _ he)

theorem Quiet.nextKeyword_ne (h : Quiet ts) {k : String} (hk : k ∉ followKeywords) : nextKeyword ts ≠ some k := by
  intro he
  obtain ⟨t, ht, he⟩ := Option.bind_eq_some_iff.1 he
  rcases h t ht with rfl | hf
  · cases he
  · cases t with
    | word w =>
      have hw : w.keyword = some k := he
      simp only [follows, hw, Option.any_some, List.contains_iff_mem] at hf
      exact hk hf
    | _ => cases he

theorem outerMarkAhead_false (h : next ts ≠ some (.symbol "(")) : outerMarkAhead d ts = .ok (false, ts) := by
  rw [outerMarkAhead, bind_ok (peek_apply ts), bind_ok (p := peekAt 1) rfl, bind_ok (p := peekAt 2) rfl]
  generalize next ts = first at h
  generalize ts[1]?.map Lexeme.token = second
  generalize ts[2]?.map Lexeme.token = third
  split
  · exact absurd rfl h
  · rfl

theorem plainWord_ident {i : Ident} (h : Quiet ts) : plainWord d r ⟨i.text, i.quote, none⟩ ts = .ok (.ident i, ts) := by
  have hp := h.next_ne (s := "(") (by decide)
  rw [plainWord, bind_ok (outerMarkAhead_false hp), bind_ok (peek_apply ts)]
  generalize hn : next ts = first at hp
  split
  · exact absurd rfl hp
  · rcases h _ hn with he | he <;> cases he
  · rcases h _ hn with he | he <;> cases he
  · rcases h _ hn with he | he <;> cases he
  · rfl

/-! ## Operands -/

section

variable {n : Nat} {l : Lexeme}

theorem operand_of_untyped {e : Expr} (ho : ∀ t ∈ next ts, opens t = true) (hb : Unbracketed ts)
    (hu : untypedOperand d (rules d false (n + 1)) ts = .ok ((e, true), rest)) (hr : Quiet rest) :
    operand d (rules d false (n + 1)) ts = .ok (e, rest) := by
  have hc : nextKeyword rest ≠ some "COLLATE" := hr.nextKeyword_ne (by decide)
  rw [operand, bind_ok (fails_typedLiteral d n ho hb).attempt]
  simp only
  rw [bind_ok hu]
  exact bind_ok (takeKeyword_other hc)

theorem wordOperand_ident {i : Ident} (h : Quiet ts) :
    wordOperand d r ⟨i.text, i.quote, none⟩ ts = .ok ((.ident i, true), ts) := by
  rw [wordOperand, bind_ok (peek_apply ts)]
  exact bind_ok (plainWord_ident h)

theorem operand_ident {i : Ident} (hl : l.token = identToken i) (hr : Quiet rest) (hb : Unbracketed (l :: rest)) :
    operand d (rules d false (n + 1)) (l :: rest) = .ok (.ident i, rest) := by
  refine operand_of_untyped (by simp [hl, identToken, opens]) hb ?_ hr
  rw [untypedOperand, bind_ok (peek_apply _), next_cons, hl]
  exact (bind_ok (skip_cons _ _)).trans (wordOperand_ident hr)

/-- A literal is an operand. -/
theorem operand_value {v : Value} {ls : List Lexeme} (hv : v.isPlain d = true) (hl : ls.map Lexeme.token = v.tokens)
    (hr : Quiet rest) (hb : Unbracketed (ls ++ rest)) :
    operand d (rules d false (n + 1)) (ls ++ rest) = .ok (.value v, rest) := by
  have hone : ∀ {t : Token}, v.tokens = [t] → opens t = true →
      (∀ place, untypedOperand d (rules d false (n + 1)) (⟨t, place⟩ :: rest) = .ok ((.value v, true), rest)) →
      operand d (rules d false (n + 1)) (ls ++ rest) = .ok (.value v, rest) := by
    intro t ht ho hu
    rw [ht, List.map_eq_singleton_iff] at hl
    obtain ⟨⟨t', place⟩, rfl, rfl⟩ := hl
    exact operand_of_untyped (by simpa using ho) hb (hu place) hr
  cases v with
  | number text long =>
    simp only [Value.isPlain, Bool.and_eq_true, Bool.not_eq_true'] at hv
    obtain ⟨⟨rfl, -⟩, -⟩ := hv
    exact hone rfl rfl fun place => rfl
  | string text => exact hone rfl rfl fun place => rfl
  | boolean b =>
    cases b with
    | true => exact hone rfl rfl fun place => by cases d <;> first | rfl | cases hv
    | false => exact hone rfl rfl fun place => by cases d <;> first | rfl | cases hv
  | null => exact hone rfl rfl fun place => by cases d <;> rfl
  | placeholder text => exact hone rfl rfl fun place => rfl
  | _ => cases hv

theorem parenthesis_nested {e : Expr} {m : Lexeme} (hk : ∀ k ∈ nextKeyword ts, k ∈ openingKeywords)
    (he : r.full ts = .ok (e, m :: rest)) (hm : m.token = .symbol ")") : parenthesis r ts = .ok (.nested e, rest) := by
  have hlist : commaList r.full ts = .ok ([e], m :: rest) := (Separated.one he (by simp [hm])).commaList
  rw [parenthesis, bind_ok (peekKeyword_apply ts)]
  generalize nextKeyword ts = first at hk
  split
  · exact absurd (hk _ rfl) (by decide)
  · exact absurd (hk _ rfl) (by decide)
  · rw [bind_ok hlist]
    show (expectSymbol ")" >>= fun _ => pure (Expr.nested e)) (m :: rest) = _
    exact bind_ok (expectSymbol_next hm)

theorem operand_nested {e : Expr} {ls : List Lexeme} {m : Lexeme} (hl : l.token = .symbol "(") (hm : m.token = .symbol ")")
    (hk : ∀ k ∈ nextKeyword ls, k ∈ openingKeywords) (he : (rules d false (n + 1)).full ls = .ok (e, m :: rest))
    (hr : Quiet rest) (hb : Unbracketed (l :: ls)) :
    operand d (rules d false (n + 1)) (l :: ls) = .ok (.nested e, rest) := by
  refine operand_of_untyped (by simp [hl, opens]) hb ?_ hr
  have hsymbol : symbolOperand d (rules d false (n + 1)) "(" (l :: ls) = .ok (.nested e, rest) :=
    (bind_ok (skip_cons _ _)).trans (parenthesis_nested hk he hm)
  rw [untypedOperand, bind_ok (peek_apply _), next_cons, hl]
  exact bind_ok hsymbol

theorem operand_not {e : Expr} {ls : List Lexeme} (hl : l.token = kw "NOT") (hk : nextKeyword ls ≠ some "EXISTS")
    (he : (rules d false (n + 1)).expr (Strength.unaryNot.toNat d) ls = .ok (e, rest)) (hr : Quiet rest)
    (hb : Unbracketed (l :: ls)) : operand d (rules d false (n + 1)) (l :: ls) = .ok (.unary .not e, rest) := by
  refine operand_of_untyped (by simp [hl, opens, kw, openingKeywords]) hb ?_ hr
  have hform : notForm d (rules d false (n + 1)) ls = .ok (.unary .not e, rest) := by
    rw [notForm, bind_ok (takeKeyword_other hk)]
    exact bind_ok he
  have hword : wordOperand d (rules d false (n + 1)) ⟨"NOT", none, some "NOT"⟩ ls = .ok ((.unary .not e, true), rest) := by
    rw [wordOperand, bind_ok (peek_apply ls)]
    show orElse (notForm d _) _ ls = _
    rw [orElse, hform]
  rw [untypedOperand, bind_ok (peek_apply _), next_cons, hl]
  exact (bind_ok (skip_cons _ _)).trans hword

end

end SqlTemplate.Grammar
