/-
Reading plain expressions: the rule for expressions, given the tokens of a plain expression and after them
something that does not go on with it, gives that expression. The proof follows the loop over operators: an
expression is taken up to its last operand, and the loop goes on from there.
-/
import SqlTemplate.Proofs.Grammar.Operand

namespace SqlTemplate.Grammar

open SqlTemplate.Grammar.Parser
open Lexer (identToken nameTokens isPlainIdent)

variable {d : Dialect} {r : Rules} {ts rest : List Lexeme}

/-! ## Names -/

theorem stepLoop_stop (h : Follow ts) (k : Nat) : stepLoop d r k ts = .ok (([], false), ts) := by
  have hperiod := h.next_ne (s := ".") (by decide)
  have hbracket := h.next_ne (s := "[") (by decide)
  cases k with
  | zero => rfl
  | succ k =>
    rw [stepLoop, bind_ok (peek_apply ts), bind_ok (p := peekAt 1) rfl]
    generalize next ts = first at hperiod hbracket
    generalize ts[1]?.map Lexeme.token = second
    split
    · exact absurd rfl hperiod
    · exact absurd rfl hperiod
    · exact absurd rfl hperiod
    · exact absurd rfl hbracket
    · rfl

/-- An operand that nothing is reached from. -/
theorem primary_of_operand {e : Expr} (h : operand d r ts = .ok (e, rest)) (hr : Follow rest) :
    primary d r ts = .ok (e, rest) := by
  have hp : next rest ≠ some (.symbol "(") := hr.next_ne (by decide)
  rw [primary, bind_ok (p := tokens) rfl, bind_ok h, bind_ok (remaining_apply _), bind_ok (stepLoop_stop hr _)]
  exact bind_ok (outerMarkAhead_false hp)

/-- The expression that a name is. -/
def nameExpr : ObjectName → Expr
  | [i] => .ident i
  | parts => .compound parts

theorem fieldSteps_nameExpr (name : ObjectName) (h : name ≠ []) :
    fieldSteps (nameExpr name) = name.map fun i => .field (.ident i) := by
  match name, h with
  | [i], _ => rfl
  | i :: j :: is, _ => rfl

theorem chainName?_fields (i : Ident) (is : List Ident) :
    chainName? (.ident i) (is.map fun j => .field (.ident j)) = some (i :: is) := by
  have hm : (is.map fun j => Step.field (.ident j)).mapM Step.ident? = some is := by
    induction is with
    | nil => rfl
    | cons j is ih =>
      rw [List.map_cons, List.mapM_cons, ih]
      rfl
  unfold chainName?
  rw [hm]

theorem chain_fields (r : Rules) (start : List Lexeme) (i j : Ident) (is : List Ident) :
    chain r start (.ident i) ((j :: is).map fun k => .field (.ident k)) ts = .ok (.compound (i :: j :: is), ts) := by
  have hb : buildChain (.ident i) ((j :: is).map fun k => .field (.ident k)) = .compound (i :: j :: is) := by
    rw [buildChain, chainName?_fields]
    rfl
  cases is with
  | nil => rfl
  | cons k is => rw [← hb]; rfl

theorem stepLoop_period {l : Lexeme} {ls : List Lexeme} {w : Word} {name : ObjectName} {k : Nat} (hl : l.token = .symbol ".")
    (hw : next ls = some (.word w)) (hne : name ≠ []) (he : r.expr (Strength.period.toNat d) ls = .ok (nameExpr name, rest))
    (hr : Follow rest) :
    stepLoop d r (k + 1) (l :: ls) = .ok ((name.map fun i => .field (.ident i), false), rest) := by
  have hsecond : (l :: ls)[1]?.map Lexeme.token = some (.word w) := by
    cases ls with
    | nil => cases hw
    | cons m ls => exact hw
  rw [stepLoop, bind_ok (peek_apply _), next_cons, hl, bind_ok (p := peekAt 1) rfl, hsecond]
  simp only
  rw [bind_ok (skip_cons l ls), bind_ok he, bind_ok (stepLoop_stop hr k), fieldSteps_nameExpr name hne, List.append_nil]
  rfl

/-! ## Strengths -/

/-- How tightly what comes next binds. -/
def strengthAt (d : Dialect) (ts : List Lexeme) : Nat :=
  match next ts with
  | none => 0
  | some t => (tokenStrength d t (ts[1]?.bind (·.token.keyword?)) (ts[2]?.bind (·.token.keyword?))).toNat d

theorem nextStrength_apply (d : Dialect) (ts : List Lexeme) : nextStrength d ts = .ok (strengthAt d ts, ts) := by
  rw [nextStrength, bind_ok (peek_apply ts), strengthAt]
  cases next ts <;> rfl

theorem strength_le_period (d : Dialect) (s : Strength) : s.toNat d ≤ Strength.period.toNat d := by
  cases d <;> cases s <;> decide

theorem strengthAt_le_period (d : Dialect) (ts : List Lexeme) : strengthAt d ts ≤ Strength.period.toNat d := by
  rw [strengthAt]
  split
  · exact Nat.zero_le _
  · exact strength_le_period d _

theorem infixLoop_stop {floor : Nat} {e : Expr} (h : strengthAt d ts ≤ floor) (k : Nat) :
    infixLoop d r floor e k ts = .ok (e, ts) := by
  cases k with
  | zero => rfl
  | succ k =>
    rw [infixLoop, bind_ok (nextStrength_apply d ts), if_pos h]
    rfl

/-- A step of the loop over operators. -/
theorem infixLoop_step {floor k : Nat} {e e' : Expr} (h : floor < strengthAt d ts) (hp : next ts ≠ some (.symbol "."))
    (he : infixRest d r e (strengthAt d ts) ts = .ok (e', rest)) :
    infixLoop d r floor e (k + 1) ts = infixLoop d r floor e' k rest := by
  rw [infixLoop, bind_ok (nextStrength_apply d ts), if_neg (by omega), bind_ok (nextIsSymbol_other hp)]
  exact bind_ok he

theorem expr_of_primary {floor : Nat} {e : Expr} (h : primary d r ts = .ok (e, rest)) :
    expr d r floor ts = infixLoop d r floor e rest.length rest := by
  rw [expr, bind_ok h]
  exact bind_ok (remaining_apply _)

/-- A name is read whole, one level for each part. -/
theorem expr_name {name : ObjectName} (hne : name ≠ []) {n floor : Nat} {ls : List Lexeme} (hn : name.length ≤ n)
    (hl : ls.map Lexeme.token = nameTokens name) (hr : Follow rest) (hb : Unbracketed (ls ++ rest)) :
    expr d (rules d false n) floor (ls ++ rest) = infixLoop d (rules d false n) floor (nameExpr name) rest.length rest := by
  induction name generalizing n floor ls with
  | nil => exact absurd rfl hne
  | cons i is ih =>
    obtain ⟨n, rfl⟩ : ∃ m, n = m + 1 := ⟨n - 1, by simp at hn; omega⟩
    cases is with
    | nil =>
      rw [nameTokens, List.map_eq_singleton_iff] at hl
      obtain ⟨l, rfl, hl⟩ := hl
      exact expr_of_primary (primary_of_operand (operand_ident hl hr.quiet hb) hr)
    | cons j is =>
      rw [nameTokens, List.map_eq_cons_iff] at hl
      obtain ⟨l, ls1, rfl, hl, hl1⟩ := hl
      obtain ⟨p, ls2, rfl, hp, hl2⟩ := List.map_eq_cons_iff.1 hl1
      have hquiet : Quiet (p :: (ls2 ++ rest)) := by
        intro t ht
        rw [next_cons, Option.mem_some_iff] at ht
        exact .inl (by rw [← ht, hp])
      have hop : operand d (rules d false (n + 1)) (l :: p :: (ls2 ++ rest)) = .ok (.ident i, p :: (ls2 ++ rest)) :=
        operand_ident hl hquiet hb
      -- after the period the rule one level down reads the rest of the name, and stops where the name ends
      have hread : (rules d false (n + 1)).expr (Strength.period.toNat d) (ls2 ++ rest) = .ok (nameExpr (j :: is), rest) :=
        (ih (by simp) (by simpa using hn) hl2 hb.tail.tail).trans (infixLoop_stop (strengthAt_le_period d rest) _)
      have hword : ∃ w, next (ls2 ++ rest) = some (.word w) := by
        obtain ⟨ts, ht⟩ : ∃ ts, nameTokens (j :: is) = identToken j :: ts := by cases is <;> exact ⟨_, rfl⟩
        rw [ht, List.map_eq_cons_iff] at hl2
        obtain ⟨m, ls3, rfl, hm, -⟩ := hl2
        exact ⟨_, congrArg some hm⟩
      obtain ⟨w, hword⟩ := hword
      have hprimary : primary d (rules d false (n + 1)) (l :: p :: (ls2 ++ rest)) = .ok (.compound (i :: j :: is), rest) := by
        rw [primary, bind_ok (p := tokens) rfl, bind_ok hop, bind_ok (remaining_apply _), List.length_cons,
          bind_ok (stepLoop_period hp hword (by simp) hread hr)]
        refine (bind_ok (outerMarkAhead_false (hr.next_ne (by decide)))).trans ?_
        exact chain_fields (rules d false (n + 1)) (l :: p :: (ls2 ++ rest)) i j is
      exact expr_of_primary hprimary

/-! ## Operators -/

section

variable {l : Lexeme} {ls : List Lexeme} {e : Expr} {strength : Nat}

theorem follow_cons (h : follows l.token = true) : Follow (l :: ls) := by
  intro t ht
  rw [next_cons, Option.mem_some_iff] at ht
  rwa [← ht]

theorem follows_op {op : BinaryOp} (h : op.isPlain = true) : follows op.token = true := by
  have hall : ∀ op ∈ BinaryOp.plain, follows op.token = true := by decide
  exact hall op (BinaryOp.mem_plain h)

theorem tokenOperator?_op (d : Dialect) {op : BinaryOp} (h : op.isPlain = true) : tokenOperator? d op.token = some op := by
  have hall : ∀ op ∈ BinaryOp.plain, tokenOperator? d op.token = some op := by cases d <;> decide
  exact hall op (BinaryOp.mem_plain h)

theorem greedyOperator?_op (d : Dialect) {op : BinaryOp} (h : op.isPlain = true) :
    greedyOperator? d op.token.keyword? = none := by
  have hall : ∀ op ∈ BinaryOp.plain, greedyOperator? d op.token.keyword? = none := by cases d <;> decide
  exact hall op (BinaryOp.mem_plain h)

/-- How tightly a plain operator binds does not depend on what follows. -/
theorem strengthAt_op (d : Dialect) {op : BinaryOp} (h : op.isPlain = true) (hl : l.token = op.token) :
    strengthAt d (l :: ls) = op.strength d := by
  have hall : ∀ second third, ∀ op ∈ BinaryOp.plain, tokenStrength d op.token second third = tokenStrength d op.token none none := by
    intro second third
    simp only [BinaryOp.plain, List.forall_mem_cons]
    exact ⟨rfl, rfl, rfl, rfl, rfl, rfl, rfl, rfl, rfl, rfl, rfl, rfl, rfl, rfl, by simp⟩
  rw [strengthAt, next_cons, hl]
  exact congrArg (Strength.toNat d) (hall _ _ op (BinaryOp.mem_plain h))

/-- A binary operator takes what binds more tightly on its right. -/
theorem infixRest_binary {op : BinaryOp} {right : Expr} (h : op.isPlain = true) (hl : l.token = op.token)
    (hk : ∀ k ∈ nextKeyword ls, k ∈ openingKeywords) (he : r.expr strength ls = .ok (right, rest)) :
    infixRest d r e strength (l :: ls) = .ok (.binary e op right, rest) := by
  have hgreedy : greedyOperator? d (nextKeyword (l :: ls)) = none := by
    rw [nextKeyword, next_cons, hl, Option.bind_some]
    exact greedyOperator?_op d h
  have hone : takeOneOf ["ANY", "ALL", "SOME"] ls = .ok (none, ls) := by
    apply takeOneOf_other
    intro k hk' hm
    have := hk k hk'
    simp only [openingKeywords, List.mem_cons, List.not_mem_nil, or_false] at this hm
    grind
  rw [infixRest, bind_ok (peekKeyword_apply _), hgreedy]
  simp only
  rw [bind_ok (p := place) rfl, bind_ok (peek_apply _), next_cons, hl]
  simp only [tokenOperator?_op d h]
  rw [bind_ok (skip_cons l ls), binaryRest, bind_ok hone]
  exact bind_ok he

theorem notTokens_cases {negated : Bool} {ns : List Lexeme} (h : ns.map Lexeme.token = notTokens negated) :
    (negated = false ∧ ns = []) ∨ (negated = true ∧ ∃ place, ns = [⟨kw "NOT", place⟩]) := by
  cases negated with
  | false => exact .inl ⟨rfl, List.map_eq_nil_iff.1 h⟩
  | true =>
    obtain ⟨⟨t, place⟩, rfl, rfl⟩ := List.map_eq_singleton_iff.1 h
    exact .inr ⟨rfl, place, rfl⟩

variable {negated : Bool} {ns : List Lexeme} (hns : ns.map Lexeme.token = notTokens negated)

include hns

theorem infixRest_test {is truth : Lexeme} {test : TruthTest} (his : is.token = kw "IS") (ht : truth.token = kw test.print) :
    infixRest d r e strength (is :: (ns ++ truth :: rest)) = .ok (.test e negated test, rest) := by
  obtain ⟨t1, p1⟩ := is
  obtain ⟨t2, p2⟩ := truth
  subst his ht
  rcases notTokens_cases hns with ⟨rfl, rfl⟩ | ⟨rfl, place, rfl⟩ <;> cases d <;> cases test <;> rfl

theorem infixRest_in (hl : l.token = kw "IN") : infixRest d r e strength (ns ++ l :: ls) = inRest d r e negated ls := by
  obtain ⟨t, p⟩ := l
  subst hl
  rcases notTokens_cases hns with ⟨rfl, rfl⟩ | ⟨rfl, place, rfl⟩ <;> cases d <;> rfl

theorem infixRest_between (hl : l.token = kw "BETWEEN") :
    infixRest d r e strength (ns ++ l :: ls) = betweenRest d r e negated ls := by
  obtain ⟨t, p⟩ := l
  subst hl
  rcases notTokens_cases hns with ⟨rfl, rfl⟩ | ⟨rfl, place, rfl⟩ <;> cases d <;> rfl

theorem infixRest_pattern {family : PatternFamily} (hf : family = .like ∨ family = .iLike) (hl : l.token = kw family.print) :
    infixRest d r e strength (ns ++ l :: ls) = patternRest d r e negated family ls := by
  obtain ⟨t, p⟩ := l
  subst hl
  rcases notTokens_cases hns with ⟨rfl, rfl⟩ | ⟨rfl, place, rfl⟩ <;> rcases hf with rfl | rfl <;> cases d <;> rfl

/-- NOT before an operator binds as that operator does. -/
theorem strengthAt_negated {k : String} {s : Strength}
    (hk : (k ∈ ["IN", "BETWEEN"] ∧ s = .between) ∨ (k ∈ ["LIKE", "ILIKE"] ∧ s = .like)) (hl : l.token = kw k) :
    strengthAt d (ns ++ l :: ls) = s.toNat d := by
  obtain ⟨t, p⟩ := l
  subst hl
  simp only [List.mem_cons, List.not_mem_nil, or_false] at hk
  rcases notTokens_cases hns with ⟨rfl, rfl⟩ | ⟨rfl, place, rfl⟩ <;> rcases hk with ⟨rfl | rfl, rfl⟩ | ⟨rfl | rfl, rfl⟩ <;> rfl

theorem follow_negated {k : String} (hk : k ∈ ["IN", "BETWEEN", "LIKE", "ILIKE"]) (hl : l.token = kw k) :
    Follow (ns ++ l :: ls) := by
  rcases notTokens_cases hns with ⟨rfl, rfl⟩ | ⟨rfl, place, rfl⟩
  · refine follow_cons ?_
    rw [hl]
    simp only [List.mem_cons, List.not_mem_nil, or_false] at hk
    rcases hk with rfl | rfl | rfl | rfl <;> decide
  · exact follow_cons (l := ⟨kw "NOT", place⟩) rfl

end

section

variable {l m : Lexeme} {ls : List Lexeme} {e : Expr} {negated : Bool}

theorem inRest_list {items : List Expr} (hl : l.token = .symbol "(") (hm : m.token = .symbol ")") (hq : Fails r.query ls)
    (hn : next ls ≠ some (.symbol ")")) (hi : Separated r.full ls items (m :: rest)) :
    inRest d r e negated (l :: ls) = .ok (.inList e negated items, rest) := by
  have hk : nextKeyword (l :: ls) ≠ some "UNNEST" := by simp [nextKeyword, hl, Token.keyword?]
  rw [inRest, bind_ok (takeKeyword_other hk)]
  refine parenthesized_next hl hm ?_
  rw [bind_ok hq.attempt]
  simp only
  split
  · rw [commaListUntil]
    exact (bind_ok ((bind_ok (nextIsSymbol_other hn)).trans hi.commaList))
  · exact bind_ok hi.commaList

theorem betweenRest_eq {low high : Expr} (hl : r.expr (Strength.between.toNat d) ts = .ok (low, l :: ls))
    (hk : l.token = kw "AND") (hh : r.expr (Strength.between.toNat d) ls = .ok (high, rest)) :
    betweenRest d r e negated ts = .ok (.between e negated low high, rest) := by
  rw [betweenRest, bind_ok hl, bind_ok (expectKeyword_next (by rw [hk]; rfl))]
  exact bind_ok hh

theorem patternRest_eq {family : PatternFamily} {p : Expr} (hf : family = .like ∨ family = .iLike)
    (hk : nextKeyword ts ≠ some "ANY") (hp : r.expr (Strength.like.toNat d) ts = .ok (p, rest)) (hr : Follow rest) :
    patternRest d r e negated family ts = .ok (.pattern e negated family false p none, rest) := by
  have he : afterKeyword "ESCAPE" (value d) rest = .ok (none, rest) :=
    afterKeyword_other (hr.quiet.nextKeyword_ne (by decide))
  rcases hf with rfl | rfl
  · exact (bind_ok (takeKeyword_other hk)).trans ((bind_ok hp).trans (bind_ok he))
  · exact (bind_ok (takeKeyword_other hk)).trans ((bind_ok hp).trans (bind_ok he))

end

/-! ## What ends an expression -/

def endSymbols : List String := [")", ","]

def endKeywords : List String := ["FROM", "WHERE", "AS", "ON", "JOIN", "INNER", "LEFT", "RIGHT", "FULL", "CROSS", "SET",
  "USING"]

/-- Tokens that may follow a plain expression and bind nothing to it. -/
def ends : Token → Bool
  | .symbol s => endSymbols.contains s
  | .word w => w.keyword.any endKeywords.contains
  | _ => false

def Ends (ts : List Lexeme) : Prop := ∀ t ∈ next ts, ends t = true

theorem ends_nil : Ends [] := by
  intro t ht
  cases ht

theorem ends_cons {l : Lexeme} {ls : List Lexeme} (h : ends l.token = true) : Ends (l :: ls) := by
  intro t ht
  rw [next_cons, Option.mem_some_iff] at ht
  rwa [← ht]

theorem ends_cases {t : Token} (h : ends t = true) :
    (∃ s ∈ endSymbols, t = .symbol s) ∨ ∃ w : Word, ∃ k ∈ endKeywords, t = .word w ∧ w.keyword = some k := by
  cases t with
  | symbol s => exact .inl ⟨s, by simpa [ends] using h, rfl⟩
  | word w =>
    simp only [ends, Option.any_eq_true, List.contains_iff_mem] at h
    obtain ⟨k, hk, hm⟩ := h
    exact .inr ⟨w, k, hm, rfl, hk⟩
  | _ => cases h

theorem Ends.follow (h : Ends ts) : Follow ts := by
  intro t ht
  rcases ends_cases (h t ht) with ⟨s, hs, rfl⟩ | ⟨w, k, hk, rfl, hw⟩
  · have hsub : ∀ s ∈ endSymbols, s ∈ followSymbols := by decide
    simpa [follows] using hsub s hs
  · have hsub : ∀ k ∈ endKeywords, k ∈ followKeywords := by decide
    simpa [follows, hw] using hsub k hk

theorem Ends.strengthAt_eq (d : Dialect) (h : Ends ts) : strengthAt d ts = 0 := by
  rw [strengthAt]
  cases hn : next ts with
  | none => rfl
  | some t =>
    rcases ends_cases (h t hn) with ⟨s, hs, rfl⟩ | ⟨w, k, hk, rfl, hw⟩
    · simp only [endSymbols, List.mem_cons, List.not_mem_nil, or_false] at hs
      rcases hs with rfl | rfl <;> cases d <;> rfl
    · have hstrength : ∀ second third, keywordStrength d k second third = .none := by
        intro second third
        simp only [endKeywords, List.mem_cons, List.not_mem_nil, or_false] at hk
        rcases hk with rfl | rfl | rfl | rfl | rfl | rfl | rfl | rfl | rfl | rfl | rfl | rfl <;> rfl
      simp only [tokenStrength, hw, hstrength]
      cases d <;> rfl

/-! ## First tokens -/

theorem opens_next {e : Expr} {ls : List Lexeme} (rest : List Lexeme) (h : e.isPlain d = true)
    (hl : ls.map Lexeme.token = e.tokens) :
    ∃ t, next (ls ++ rest) = some t ∧ opens t = true := by
  obtain ⟨t, ts, he, ho⟩ := Expr.exists_tokens_eq_cons h
  rw [he] at hl
  obtain ⟨l, ls, rfl, rfl, -⟩ := List.map_eq_cons_iff.1 hl
  exact ⟨l.token, rfl, ho⟩

theorem mem_openingKeywords {t : Token} (hn : next ts = some t) (ho : opens t = true) :
    ∀ k ∈ nextKeyword ts, k ∈ openingKeywords := by
  intro k hk
  rw [nextKeyword, hn, Option.bind_some] at hk
  cases t with
  | word w =>
    have hw : w.keyword = some k := hk
    simpa [opens, hw] using ho
  | _ => cases hk

/-- A query without a WITH list that changes no rows. -/
theorem query_eq (hk : ∀ k ∈ ["WITH", "INSERT", "UPDATE", "DELETE"], nextKeyword ts ≠ some k) :
    query d r ts = (do let b ← body d r; return ⟨false, [], b, ← queryClauses d r⟩ : Parser Query) ts := by
  rw [query, bind_ok (takeKeyword_other (hk "WITH" (by decide)))]
  simp only [Bool.false_eq_true, if_false, pure_bind]
  rw [bind_ok (takeKeyword_other (hk "INSERT" (by decide)))]
  simp only [Bool.false_eq_true, if_false]
  rw [bind_ok (takeKeyword_other (hk "UPDATE" (by decide)))]
  simp only [Bool.false_eq_true, if_false]
  rw [bind_ok (takeKeyword_other (hk "DELETE" (by decide)))]
  simp only [Bool.false_eq_true, if_false]

/-- What begins like an expression is no query, unless a query stands in its parenthesis. -/
theorem fails_query_of (hk : ∀ k ∈ nextKeyword ts, k ∈ openingKeywords)
    (hp : ∀ l ls, ts = l :: ls → l.token = .symbol "(" → Fails r.query ls) : Fails (query d r) ts := by
  have hne : ∀ k ∈ ["WITH", "INSERT", "UPDATE", "DELETE"], nextKeyword ts ≠ some k := by
    intro k hm he
    have ho := hk k he
    simp only [openingKeywords, List.mem_cons, List.not_mem_nil, or_false] at hm ho
    grind
  have hbody : Fails (simpleBody d r) ts := by
    refine Fails.bind (peekKeyword_apply ts) ?_
    generalize nextKeyword ts = first at hk
    split
    · exact absurd (hk _ rfl) (by decide)
    · exact absurd (hk _ rfl) (by decide)
    · exact absurd (hk _ rfl) (by decide)
    · exact absurd (hk _ rfl) (by decide)
    · by_cases hn : next ts = some (.symbol "(")
      · cases ts with
        | nil => cases hn
        | cons l ls =>
          have hl : l.token = .symbol "(" := Option.some.inj hn
          refine Fails.bind (nextIsSymbol_next hl) ?_
          exact Fails.bind_left (Fails.bind (expectSymbol_next hl) (hp l ls rfl hl).bind_left)
      · exact Fails.bind (nextIsSymbol_other hn) (fails_unexpected ts)
  rw [Fails, query_eq hne]
  exact hbody.bind_left.bind_left.bind_left

/-- No query begins with the tokens of an expression. -/
def NoQuery (d : Dialect) (e : Expr) : Prop :=
  ∀ n ls rest, e.levels ≤ n → ls.map Lexeme.token = e.tokens → Fails (rules d false n).query (ls ++ rest)

theorem noQuery_of_token {e : Expr} {t : Token} {us : List Token} (he : e.tokens = t :: us) (ho : opens t = true)
    (hp : t ≠ .symbol "(") (h0 : 0 < e.levels) : NoQuery d e := by
  intro n ls rest hn hl
  obtain ⟨n, rfl⟩ : ∃ m, n = m + 1 := ⟨n - 1, by omega⟩
  rw [he] at hl
  obtain ⟨l, ls, rfl, rfl, -⟩ := List.map_eq_cons_iff.1 hl
  refine fails_query_of (mem_openingKeywords rfl ho) fun l' ls' hc hl' => ?_
  rw [(List.cons.inj hc).1] at hp
  exact absurd hl' hp

theorem NoQuery.append {e f : Expr} {us : List Token} (h : NoQuery d e) (ht : f.tokens = e.tokens ++ us)
    (hlevels : e.levels ≤ f.levels) : NoQuery d f := by
  intro n ls rest hn hl
  rw [ht] at hl
  obtain ⟨ls1, ls2, rfl, hl1, -⟩ := List.map_eq_append_iff.1 hl
  rw [List.append_assoc]
  exact h n ls1 _ (by omega) hl1

theorem NoQuery.nested {e : Expr} (h : NoQuery d e) : NoQuery d (.nested e) := by
  intro n ls rest hn hl
  rw [Expr.levels] at hn
  obtain ⟨n, rfl⟩ : ∃ m, n = m + 1 := ⟨n - 1, by omega⟩
  rw [Expr.tokens] at hl
  obtain ⟨l, ls, rfl, hp, hl⟩ := List.map_eq_cons_iff.1 hl
  obtain ⟨ls1, ls2, rfl, hl1, -⟩ := List.map_eq_append_iff.1 hl
  refine fails_query_of (by simp [nextKeyword, hp, Token.keyword?]) fun l' ls' hc _ => ?_
  simp only [List.cons_append, List.append_assoc, List.cons.injEq] at hc
  rw [← hc.2]
  exact h n ls1 _ (by omega) hl1

/-- No plain expression begins a query. -/
theorem noQuery_of_isPlain {e : Expr} (h : e.isPlain d = true) : NoQuery d e := by
  refine Expr.plain_induction (P := NoQuery d) ?ident ?compound ?value ?nested ?not ?binary ?test ?inList ?between ?pattern e h
  case ident => intro i _; exact noQuery_of_token (by rw [Expr.tokens]) rfl (by simp [identToken]) (by simp [Expr.levels])
  case compound =>
    intro i j is _
    exact noQuery_of_token (by rw [Expr.tokens, nameTokens]) rfl (by simp [identToken]) (by simp [Expr.levels])
  case value =>
    intro v hv
    have hone : ∀ {t : Token}, v.tokens = [t] → opens t = true → t ≠ .symbol "(" → NoQuery d (.value v) :=
      fun ht ho hp => noQuery_of_token (by rw [Expr.tokens, ht]) ho hp (by simp [Expr.levels])
    cases v with
    | boolean b => cases b <;> exact hone rfl rfl (by simp)
    | number | string | null | placeholder => exact hone rfl rfl (by simp [kw])
    | _ => cases hv
  case nested => intro e _ ih; exact ih.nested
  case not => intro e _ _ _; exact noQuery_of_token (by rw [Expr.tokens]) rfl (by simp [kw]) (by simp [Expr.levels])
  case binary =>
    intro left op right _ _ ih _ _ _
    exact ih.append (by rw [Expr.tokens]) (by rw [Expr.levels]; exact Nat.le_max_left _ _)
  case test => intro e _ _ ih _; exact ih.append (by rw [Expr.tokens]) (by rw [Expr.levels])
  case inList =>
    intro e _ _ ih _ _ _
    exact ih.append (by rw [Expr.tokens]) (by rw [Expr.levels]; exact Nat.le_max_left _ _)
  case between =>
    intro e _ _ _ _ _ ih _ _ _ _ _ _
    exact ih.append (by rw [Expr.tokens]) (by rw [Expr.levels]; exact Nat.le_max_left _ _)
  case pattern =>
    intro e _ _ _ _ _ ih _ _ _
    exact ih.append (by rw [Expr.tokens]) (by rw [Expr.levels]; exact Nat.le_max_left _ _)

/-! ## Expressions -/

/-- The rule for expressions takes the tokens of `e` and goes on with its loop over operators from there. -/
def ReadsTo (d : Dialect) (e : Expr) : Prop :=
  ∀ n floor ls rest, e.levels ≤ n + 1 → floor < e.spine d → ls.map Lexeme.token = e.tokens → Follow rest →
    Unbracketed (ls ++ rest) → strengthAt d rest ≤ e.edge d →
    ∃ k, rest.length ≤ k ∧ expr d (rules d false n) floor (ls ++ rest) = infixLoop d (rules d false n) floor e k rest

/-- The loop stops before what binds no more tightly than it must. -/
theorem ReadsTo.expr_eq {e : Expr} (h : ReadsTo d e) {n floor : Nat} {ls : List Lexeme} (hn : e.levels ≤ n + 1)
    (hf : floor < e.spine d) (hl : ls.map Lexeme.token = e.tokens) (hr : Follow rest) (hb : Unbracketed (ls ++ rest))
    (hs : strengthAt d rest ≤ e.edge d) (hs' : strengthAt d rest ≤ floor) :
    expr d (rules d false n) floor (ls ++ rest) = .ok (e, rest) := by
  obtain ⟨k, -, h⟩ := h n floor ls rest hn hf hl hr hb hs
  rw [h]
  exact infixLoop_stop hs' k

/-- A whole expression, before what ends one. -/
theorem ReadsTo.full_eq {e : Expr} (h : ReadsTo d e) (he : e.isPlain d = true) {n : Nat} {ls : List Lexeme}
    (hn : e.levels ≤ n + 1) (hl : ls.map Lexeme.token = e.tokens) (hr : Ends rest) (hb : Unbracketed (ls ++ rest)) :
    (rules d false (n + 1)).full (ls ++ rest) = .ok (e, rest) := by
  have hs := hr.strengthAt_eq d
  exact h.expr_eq hn (Expr.spine_pos he) hl hr.follow hb (by omega) (by omega)

theorem readsTo_of_operand {e : Expr} (h : ∀ n ls rest, e.levels ≤ n + 1 → ls.map Lexeme.token = e.tokens → Follow rest →
    Unbracketed (ls ++ rest) → strengthAt d rest ≤ e.edge d → operand d (rules d false n) (ls ++ rest) = .ok (e, rest)) :
    ReadsTo d e := by
  intro n floor ls rest hn _ hl hr hb hs
  exact ⟨rest.length, Nat.le_refl _, expr_of_primary (primary_of_operand (h n ls rest hn hl hr hb hs) hr)⟩

/-- One turn of the loop: an expression and the operator after it, with all that the operator takes. -/
theorem ReadsTo.step {e f : Expr} {us : List Token} (h : ReadsTo d e) (ht : f.tokens = e.tokens ++ us) (hne : us ≠ [])
    (hlevels : e.levels ≤ f.levels) (hleft : e.isLeft d (f.spine d) = true)
    (hrest : ∀ n ls rest, f.levels ≤ n + 1 → ls.map Lexeme.token = us → Follow rest → Unbracketed (ls ++ rest) →
      strengthAt d rest ≤ f.edge d → Follow (ls ++ rest) ∧ strengthAt d (ls ++ rest) = f.spine d ∧
        infixRest d (rules d false n) e (f.spine d) (ls ++ rest) = .ok (f, rest)) : ReadsTo d f := by
  intro n floor ls rest hn hf hl hr hb hs
  rw [ht] at hl
  obtain ⟨ls1, ls2, rfl, hl1, hl2⟩ := List.map_eq_append_iff.1 hl
  rw [List.append_assoc] at hb ⊢
  simp only [Expr.isLeft, Bool.and_eq_true, decide_eq_true_eq] at hleft
  obtain ⟨hfollow, hstrength, hinfix⟩ := hrest n ls2 rest hn hl2 hr hb.right hs
  obtain ⟨k, hk, he⟩ := h n floor ls1 (ls2 ++ rest) (by omega) (by omega) hl1 hfollow hb (by omega)
  -- the operator is at least one token, so the loop has a turn left for it
  have hpos : 0 < ls2.length := by
    have := congrArg List.length hl2
    rw [List.length_map] at this
    have := List.length_pos_iff.2 hne
    omega
  rw [List.length_append] at hk
  obtain ⟨k, rfl⟩ : ∃ m, k = m + 1 := ⟨k - 1, by omega⟩
  refine ⟨k, by omega, ?_⟩
  rw [← hstrength] at hinfix
  rw [he, infixLoop_step (by omega) (hfollow.next_ne (by decide)) hinfix]

theorem ReadsTo.binary {left right : Expr} {op : BinaryOp} (hop : op.isPlain = true) (hright : right.isPlain d = true)
    (hl : ReadsTo d left) (hr : ReadsTo d right) (hleft : left.isLeft d (op.strength d) = true)
    (hspine : op.strength d < right.spine d) : ReadsTo d (.binary left op right) := by
  refine hl.step (by rw [Expr.tokens]) (by simp) (by rw [Expr.levels]; exact Nat.le_max_left _ _) hleft ?_
  intro n ls rest hn hls hfollow hb hs
  obtain ⟨l, ls, rfl, ht, hls⟩ := List.map_eq_cons_iff.1 hls
  have hlevels : right.levels ≤ n := by
    rw [Expr.levels] at hn
    omega
  obtain ⟨n, rfl⟩ : ∃ m, n = m + 1 := ⟨n - 1, by have := Expr.levels_pos hright; omega⟩
  rw [Expr.edge] at hs
  have hread : (rules d false (n + 1)).expr (op.strength d) (ls ++ rest) = .ok (right, rest) :=
    hr.expr_eq hlevels hspine hls hfollow hb.tail (by omega) (by omega)
  obtain ⟨t, hnext, ho⟩ := opens_next rest hright hls
  exact ⟨follow_cons (ht ▸ follows_op hop), strengthAt_op d hop ht,
    infixRest_binary hop ht (mem_openingKeywords hnext ho) hread⟩

theorem ReadsTo.test {e : Expr} {negated : Bool} {truth : TruthTest} (h : ReadsTo d e)
    (hleft : e.isLeft d (Strength.is.toNat d) = true) : ReadsTo d (.test e negated truth) := by
  refine h.step (by rw [Expr.tokens]) (by simp) (by rw [Expr.levels]) hleft ?_
  intro n ls rest _ hls _ _ _
  obtain ⟨is, ls, rfl, his, hls⟩ := List.map_eq_cons_iff.1 hls
  obtain ⟨ns, ms, rfl, hns, hms⟩ := List.map_eq_append_iff.1 hls
  obtain ⟨t, rfl, ht⟩ := List.map_eq_singleton_iff.1 hms
  refine ⟨follow_cons (his ▸ rfl), ?_, ?_⟩
  · rw [List.cons_append, strengthAt, next_cons, his]
    rfl
  · rw [List.cons_append, List.append_assoc]
    exact infixRest_test hns his ht

theorem ReadsTo.inList {e : Expr} {negated : Bool} {items : List Expr} (h : ReadsTo d e) (hne : items ≠ [])
    (hitems : ∀ i ∈ items, i.isPlain d = true ∧ ReadsTo d i) (hleft : e.isLeft d (Strength.between.toNat d) = true) :
    ReadsTo d (.inList e negated items) := by
  refine h.step (by rw [Expr.tokens]) (by simp) (by rw [Expr.levels]; exact Nat.le_max_left _ _) hleft ?_
  intro n ls rest hn hls _ hb _
  obtain ⟨ns, ls, rfl, hns, hls⟩ := List.map_eq_append_iff.1 hls
  obtain ⟨l, ls, rfl, hl, hls⟩ := List.map_eq_cons_iff.1 hls
  obtain ⟨p, ls, rfl, hp, hls⟩ := List.map_eq_cons_iff.1 hls
  obtain ⟨ls, ms, rfl, hls1, hms⟩ := List.map_eq_append_iff.1 hls
  obtain ⟨m, rfl, hm⟩ := List.map_eq_singleton_iff.1 hms
  rw [Expr.levels] at hn
  have hlevels : ∀ i ∈ items, i.levels ≤ n := fun i hi => by
    have := Expr.levels_le_levelsList hi
    omega
  obtain ⟨i, is, rfl⟩ := List.exists_cons_of_ne_nil hne
  obtain ⟨hi, -⟩ := hitems i List.mem_cons_self
  have hpos := Expr.levels_pos hi
  have hfirst := hlevels i List.mem_cons_self
  obtain ⟨n, rfl⟩ : ∃ m, n = m + 1 := ⟨n - 1, by omega⟩
  simp only [List.append_assoc, List.cons_append, List.nil_append] at hb ⊢
  rw [Expr.tokensEach_eq] at hls1
  have hsep : Separated (rules d false (n + 1)).full (ls ++ m :: rest) (i :: is) (m :: rest) := by
    refine separated_of_tokens (S := Ends) (fun l ls hl => ends_cons (hl ▸ rfl)) (ends_cons (hm ▸ rfl)) (by simp [hm]) hne ?_
      hls1 hb.right.tail.tail
    intro a ha ls rest hl hr hb
    exact (hitems a ha).2.full_eq (hitems a ha).1 (hlevels a ha) hl hr hb
  -- the first item tells the list from a query
  obtain ⟨us, hus⟩ := exists_commaTokens_eq i.tokens (is.map Expr.tokens)
  rw [List.map_cons, hus] at hls1
  obtain ⟨ls1, ls2, rfl, hl1, -⟩ := List.map_eq_append_iff.1 hls1
  rw [List.append_assoc] at hsep ⊢
  have hquery : Fails (rules d false (n + 1)).query (ls1 ++ (ls2 ++ m :: rest)) := noQuery_of_isPlain hi _ _ _ hfirst hl1
  obtain ⟨t, ht, ho⟩ := opens_next (ls2 ++ m :: rest) hi hl1
  have hparen : next (ls1 ++ (ls2 ++ m :: rest)) ≠ some (.symbol ")") := by
    rw [ht]
    rintro ⟨rfl⟩
    cases ho
  exact ⟨follow_negated hns (by decide) hl, strengthAt_negated hns (.inl ⟨by decide, rfl⟩) hl,
    (infixRest_in hns hl).trans (inRest_list hp hm hquery hparen hsep)⟩

theorem ReadsTo.between {e low high : Expr} {negated : Bool} (h : ReadsTo d e) (hlow : ReadsTo d low) (hhigh : ReadsTo d high)
    (hl : low.isPlain d = true) (hleft : e.isLeft d (Strength.between.toNat d) = true)
    (hlows : Strength.between.toNat d < low.spine d) (hedge : Strength.and.toNat d ≤ low.edge d)
    (hhighs : Strength.between.toNat d < high.spine d) : ReadsTo d (.between e negated low high) := by
  refine h.step (by rw [Expr.tokens]) (by simp) (by rw [Expr.levels]; exact Nat.le_max_left _ _) hleft ?_
  intro n ls rest hn hls hfollow hb hs
  obtain ⟨ns, ls, rfl, hns, hls⟩ := List.map_eq_append_iff.1 hls
  obtain ⟨l, ls, rfl, hlt, hls⟩ := List.map_eq_cons_iff.1 hls
  obtain ⟨ls1, ls2, rfl, hls1, hls2⟩ := List.map_eq_append_iff.1 hls
  obtain ⟨m, ls2, rfl, hm, hls2⟩ := List.map_eq_cons_iff.1 hls2
  rw [Expr.levels] at hn
  rw [Expr.edge] at hs
  have hpos := Expr.levels_pos hl
  obtain ⟨n, rfl⟩ : ∃ m, n = m + 1 := ⟨n - 1, by omega⟩
  simp only [List.append_assoc, List.cons_append] at hb ⊢
  -- AND binds less tightly than BETWEEN, so the lower bound ends before it
  have hand : strengthAt d (m :: (ls2 ++ rest)) = Strength.and.toNat d := strengthAt_op d (by decide : BinaryOp.isPlain .and = true) hm
  have hweak : Strength.and.toNat d ≤ Strength.between.toNat d := by cases d <;> decide
  have hreadLow : (rules d false (n + 1)).expr (Strength.between.toNat d) (ls1 ++ m :: (ls2 ++ rest)) =
      .ok (low, m :: (ls2 ++ rest)) :=
    hlow.expr_eq (by omega) hlows hls1 (follow_cons (hm ▸ rfl)) hb.right.tail (by omega) (by omega)
  have hreadHigh : (rules d false (n + 1)).expr (Strength.between.toNat d) (ls2 ++ rest) = .ok (high, rest) :=
    hhigh.expr_eq (by omega) hhighs hls2 hfollow hb.right.tail.right.tail (by omega) (by omega)
  exact ⟨follow_negated hns (by decide) hlt, strengthAt_negated hns (.inl ⟨by decide, rfl⟩) hlt,
    (infixRest_between hns hlt).trans (betweenRest_eq hreadLow hm hreadHigh)⟩

theorem ReadsTo.pattern {e p : Expr} {negated : Bool} {family : PatternFamily} (hf : family = .like ∨ family = .iLike)
    (h : ReadsTo d e) (hp : ReadsTo d p) (hplain : p.isPlain d = true) (hleft : e.isLeft d (Strength.like.toNat d) = true)
    (hspine : Strength.like.toNat d < p.spine d) : ReadsTo d (.pattern e negated family false p none) := by
  refine h.step (by rw [Expr.tokens]) (by simp) (by rw [Expr.levels]; exact Nat.le_max_left _ _) hleft ?_
  intro n ls rest hn hls hfollow hb hs
  obtain ⟨ns, ls, rfl, hns, hls⟩ := List.map_eq_append_iff.1 hls
  obtain ⟨l, ls, rfl, hl, hls⟩ := List.map_eq_cons_iff.1 hls
  rw [Expr.levels] at hn
  rw [Expr.edge] at hs
  have hpos := Expr.levels_pos hplain
  obtain ⟨n, rfl⟩ : ∃ m, n = m + 1 := ⟨n - 1, by omega⟩
  simp only [List.append_assoc, List.cons_append] at hb ⊢
  have hread : (rules d false (n + 1)).expr (Strength.like.toNat d) (ls ++ rest) = .ok (p, rest) :=
    hp.expr_eq (by omega) hspine hls hfollow hb.right.tail (by omega) (by omega)
  obtain ⟨t, hnext, ho⟩ := opens_next rest hplain hls
  have hany : nextKeyword (ls ++ rest) ≠ some "ANY" := by
    intro he
    exact absurd (mem_openingKeywords hnext ho _ he) (by decide)
  have hk : family.print ∈ ["LIKE", "ILIKE"] := by rcases hf with rfl | rfl <;> decide
  exact ⟨follow_negated hns (by simp only [List.mem_cons] at hk ⊢; tauto) hl, strengthAt_negated hns (.inr ⟨hk, rfl⟩) hl,
    (infixRest_pattern hns hf hl).trans (patternRest_eq hf hany hread hfollow)⟩

theorem ReadsTo.nested {e : Expr} (he : e.isPlain d = true) (h : ReadsTo d e) : ReadsTo d (.nested e) := by
  apply readsTo_of_operand
  intro n ls rest hn hl hr hb _
  rw [Expr.tokens] at hl
  obtain ⟨l, ls, rfl, hp, hl⟩ := List.map_eq_cons_iff.1 hl
  obtain ⟨ls, ms, rfl, hl1, hms⟩ := List.map_eq_append_iff.1 hl
  obtain ⟨m, rfl, hm⟩ := List.map_eq_singleton_iff.1 hms
  rw [Expr.levels] at hn
  have hpos := Expr.levels_pos he
  obtain ⟨n, rfl⟩ : ∃ m, n = m + 1 := ⟨n - 1, by omega⟩
  simp only [List.append_assoc, List.cons_append, List.nil_append] at hb ⊢
  obtain ⟨t, ht, ho⟩ := opens_next (m :: rest) he hl1
  exact operand_nested hp hm (mem_openingKeywords ht ho)
    (h.full_eq he (by omega) hl1 (ends_cons (hm ▸ rfl)) hb.tail) hr.quiet hb

theorem ReadsTo.not {e : Expr} (he : e.isPlain d = true) (h : ReadsTo d e) (hs : Strength.unaryNot.toNat d < e.spine d) :
    ReadsTo d (.unary .not e) := by
  apply readsTo_of_operand
  intro n ls rest hn hl hr hb hedge
  rw [Expr.tokens] at hl
  obtain ⟨l, ls, rfl, ht, hl⟩ := List.map_eq_cons_iff.1 hl
  rw [Expr.levels] at hn
  rw [Expr.edge] at hedge
  have hpos := Expr.levels_pos he
  obtain ⟨n, rfl⟩ : ∃ m, n = m + 1 := ⟨n - 1, by omega⟩
  obtain ⟨t, hnext, ho⟩ := opens_next rest he hl
  have hk : nextKeyword (ls ++ rest) ≠ some "EXISTS" := by
    intro hk
    exact absurd (mem_openingKeywords hnext ho _ hk) (by decide)
  exact operand_not ht hk (h.expr_eq (by omega) hs hl hr hb.tail (by omega) (by omega)) hr.quiet hb

/-- Every plain expression is read from its tokens. -/
theorem readsTo_of_isPlain {e : Expr} (h : e.isPlain d = true) : ReadsTo d e := by
  refine Expr.plain_induction (P := ReadsTo d) ?ident ?compound ?value ?nested ?not ?binary ?test ?inList ?between ?pattern e h
  case ident =>
    intro i _ n floor ls rest hn _ hl hr hb _
    rw [Expr.tokens] at hl
    exact ⟨_, Nat.le_refl _, expr_name (by simp : [i] ≠ []) (by simpa [Expr.levels] using hn) hl hr hb⟩
  case compound =>
    intro i j is _ n floor ls rest hn _ hl hr hb _
    rw [Expr.tokens] at hl
    exact ⟨_, Nat.le_refl _, expr_name (by simp) (by simpa [Expr.levels] using hn) hl hr hb⟩
  case value =>
    intro v hv
    apply readsTo_of_operand
    intro n ls rest hn hl hr hb _
    obtain ⟨n, rfl⟩ : ∃ m, n = m + 1 := ⟨n - 1, by simp [Expr.levels] at hn; omega⟩
    rw [Expr.tokens] at hl
    exact operand_value hv hl hr.quiet hb
  case nested => intro e he ih; exact ih.nested he
  case not => intro e he ih hs; exact ih.not he hs
  case binary => intro left op right hop hr ihl ihr hleft hs; exact ihl.binary hop hr ihr hleft hs
  case test => intro e negated truth ih hleft; exact ih.test hleft
  case inList => intro e negated items ih hne hitems hleft; exact ih.inList hne hitems hleft
  case between =>
    intro e negated low high hl _ ih ihl ihh hleft h1 h2 h3
    exact ih.between ihl ihh hl hleft h1 h2 h3
  case pattern => intro e negated family p hf hp ih ihp hleft hs; exact ih.pattern hf ihp hp hleft hs

end SqlTemplate.Grammar
