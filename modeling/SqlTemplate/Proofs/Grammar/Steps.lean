/-
What the small steps of the grammar do on given tokens. A rule is described by an equation, `p ts = .ok (a, rest)`:
it takes what stands before `rest` and gives `a`. Equations are chained along the steps of a rule with `bind_ok`.
-/
import SqlTemplate.Grammar.Statement

namespace SqlTemplate.Grammar

open SqlTemplate.Grammar.Parser

variable {α β : Type} {p : Parser α} {ts rest : List Lexeme} {a : α}

/-! ## Chains of steps -/

theorem bind_apply (p : Parser α) (f : α → Parser β) (ts : List Lexeme) :
    (p >>= f) ts = match p ts with | .ok (a, rest) => f a rest | .error e => .error e := by
  show (p ts >>= fun x => f x.1 x.2) = _
  cases p ts <;> rfl

theorem bind_ok {f : α → Parser β} (h : p ts = .ok (a, rest)) : (p >>= f) ts = f a rest := by
  rw [bind_apply, h]

theorem bind_eq_ok {f : α → Parser β} {b : β} {rest' : List Lexeme} (h : (p >>= f) ts = .ok (b, rest')) :
    ∃ a rest, p ts = .ok (a, rest) ∧ f a rest = .ok (b, rest') := by
  rw [bind_apply] at h
  cases hp : p ts with
  | ok x => rw [hp] at h; exact ⟨x.1, x.2, rfl, h⟩
  | error e => rw [hp] at h; cases h

/-- What follows a step that is one of two gives the result. -/
theorem of_either_bind {c : Prop} [Decidable c] {q : Parser α} {f : α → Parser β} {b : β}
    (h : (if c then p >>= f else q >>= f) ts = .ok (b, rest)) : ∃ a ts', f a ts' = .ok (b, rest) := by
  split at h
  · obtain ⟨a, ts', -, h⟩ := bind_eq_ok h
    exact ⟨a, ts', h⟩
  · obtain ⟨a, ts', -, h⟩ := bind_eq_ok h
    exact ⟨a, ts', h⟩

/-- The rule does not apply. -/
def Fails (p : Parser α) (ts : List Lexeme) : Prop := ∃ place, p ts = .error (.unexpected place)

theorem Fails.bind {f : α → Parser β} (hp : p ts = .ok (a, rest)) (hf : Fails (f a) rest) : Fails (p >>= f) ts := by
  rw [Fails, bind_ok hp]
  exact hf

theorem Fails.bind_left {f : α → Parser β} (hp : Fails p ts) : Fails (p >>= f) ts := by
  obtain ⟨place, hp⟩ := hp
  exact ⟨place, by rw [bind_apply, hp]⟩

theorem Fails.attempt (h : Fails p ts) : attempt p ts = .ok (none, ts) := by
  obtain ⟨place, h⟩ := h
  rw [Parser.attempt, h]

theorem fails_unexpected (ts : List Lexeme) : Fails (unexpected : Parser α) ts := ⟨_, rfl⟩

/-! ## Steps on a first token -/

section

variable {l : Lexeme} {ls : List Lexeme}

theorem takeIf_true {test : Token → Bool} (h : test l.token = true) : takeIf test (l :: ls) = .ok (true, ls) := by
  simp [takeIf, h]

theorem takeIf_false {test : Token → Bool} (h : ∀ l ∈ ts.head?, test l.token = false) : takeIf test ts = .ok (false, ts) := by
  cases ts with
  | nil => rfl
  | cons l ls => simp [takeIf, h l rfl]

/-- What the next token is. -/
def next (ts : List Lexeme) : Option Token := ts.head?.map Lexeme.token

@[simp] theorem next_nil : next [] = none := rfl

@[simp] theorem next_cons (l : Lexeme) (ls : List Lexeme) : next (l :: ls) = some l.token := rfl

theorem peek_apply (ts : List Lexeme) : peek ts = .ok (next ts, ts) := rfl

theorem skip_cons (l : Lexeme) (ls : List Lexeme) : skip (l :: ls) = .ok ((), ls) := rfl

theorem remaining_apply (ts : List Lexeme) : remaining ts = .ok (ts.length, ts) := rfl

/-- The keyword that the next token is. -/
def nextKeyword (ts : List Lexeme) : Option String := (next ts).bind Token.keyword?

theorem peekKeyword_apply (ts : List Lexeme) : peekKeyword ts = .ok (nextKeyword ts, ts) := by
  cases ts <;> rfl

theorem takeSymbol_next {s : String} (h : l.token = .symbol s) : takeSymbol s (l :: ls) = .ok (true, ls) :=
  takeIf_true (by simp [h, isSymbol])

theorem isSymbol_eq_false {t : Token} {s : String} (h : t ≠ .symbol s) : isSymbol s t = false := by
  unfold isSymbol
  split
  · rename_i s'
    simpa using h
  · rfl

theorem takeSymbol_other {s : String} (h : next ts ≠ some (.symbol s)) : takeSymbol s ts = .ok (false, ts) := by
  apply takeIf_false
  intro l hl
  have hn : next ts = some l.token := by rw [next, hl, Option.map_some]
  rw [hn] at h
  exact isSymbol_eq_false fun he => h (by rw [he])

theorem nextIsSymbol_other {s : String} (h : next ts ≠ some (.symbol s)) : nextIsSymbol s ts = .ok (false, ts) := by
  have hany : (next ts).any (isSymbol s) = false := by
    cases hn : next ts with
    | none => rfl
    | some t => exact isSymbol_eq_false fun he => h (by rw [hn, he])
  rw [nextIsSymbol, bind_ok (peek_apply ts), hany]
  rfl

theorem nextIsSymbol_next {s : String} (h : l.token = .symbol s) : nextIsSymbol s (l :: ls) = .ok (true, l :: ls) := by
  have hany : (next (l :: ls)).any (isSymbol s) = true := by simp [h, isSymbol]
  rw [nextIsSymbol, bind_ok (peek_apply _), hany]
  rfl

theorem takeKeyword_next {k : String} (h : l.token.keyword? = some k) : takeKeyword k (l :: ls) = .ok (true, ls) :=
  takeIf_true (by simp [h, isKeyword])

theorem takeKeyword_other {k : String} (h : nextKeyword ts ≠ some k) : takeKeyword k ts = .ok (false, ts) := by
  apply takeIf_false
  intro l hl
  have hn : next ts = some l.token := by rw [next, hl, Option.map_some]
  rw [nextKeyword, hn, Option.bind_some] at h
  simpa [isKeyword] using h

theorem nextIsKeyword_other {k : String} (h : nextKeyword ts ≠ some k) : nextIsKeyword k ts = .ok (false, ts) := by
  have hb : (nextKeyword ts == some k) = false := by simpa using h
  rw [nextIsKeyword, bind_ok (peekKeyword_apply ts), hb]
  rfl

theorem expectSymbol_next {s : String} (h : l.token = .symbol s) : expectSymbol s (l :: ls) = .ok ((), ls) := by
  rw [expectSymbol, bind_ok (takeSymbol_next h)]
  rfl

theorem expectKeyword_next {k : String} (h : l.token.keyword? = some k) : expectKeyword k (l :: ls) = .ok ((), ls) := by
  rw [expectKeyword, bind_ok (takeKeyword_next h)]
  rfl

theorem takeKeywords_other {k : String} {ks : List String} (h : nextKeyword ts ≠ some k) :
    takeKeywords (k :: ks) ts = .ok (false, ts) := by
  have hb : beginsWith (k :: ks) ts = false := by
    cases ts with
    | nil => rfl
    | cons l ls =>
      rw [nextKeyword, next_cons, Option.bind_some] at h
      simp [beginsWith, h]
  rw [takeKeywords, hb]
  rfl

/-- What is not taken anywhere is not taken where it is allowed. -/
theorem takeWhere_other {p : Parser Bool} (allowed : Bool) (h : p ts = .ok (false, ts)) :
    takeWhere allowed p ts = .ok (false, ts) := by
  cases allowed with
  | true => exact h
  | false => rfl

theorem takeOneOf_other {ks : List String} (h : ∀ k ∈ nextKeyword ts, k ∉ ks) : takeOneOf ks ts = .ok (none, ts) := by
  unfold takeOneOf
  cases ts with
  | nil => rfl
  | cons l ls =>
    rw [nextKeyword, next_cons, Option.bind_some] at h
    simp only
    split
    · rename_i k hk
      rw [if_neg]
      simpa using h k hk
    · rfl

theorem afterKeyword_other {k : String} {q : Parser β} (h : nextKeyword ts ≠ some k) : afterKeyword k q ts = .ok (none, ts) := by
  rw [afterKeyword, bind_ok (takeKeyword_other h)]
  rfl

theorem afterKeyword_next {k : String} (h : l.token.keyword? = some k) (hp : p ls = .ok (a, rest)) :
    afterKeyword k p (l :: ls) = .ok (some a, rest) := by
  rw [afterKeyword, bind_ok (takeKeyword_next h)]
  exact bind_ok hp

theorem afterKeywords_other {k : String} {ks : List String} {q : Parser β} (h : nextKeyword ts ≠ some k) :
    afterKeywords (k :: ks) q ts = .ok (none, ts) := by
  rw [afterKeywords, bind_ok (takeKeywords_other h)]
  rfl

theorem parenthesized_next {m : Lexeme} (hl : l.token = .symbol "(") (hm : m.token = .symbol ")")
    (hp : p ls = .ok (a, m :: rest)) : parenthesized p (l :: ls) = .ok (a, rest) := by
  rw [parenthesized, bind_ok (expectSymbol_next hl), bind_ok hp, bind_ok (expectSymbol_next hm)]
  rfl

end

/-! ## Lists -/

/-- Tokens that a rule takes in parts, with commas between them. -/
inductive Separated (p : Parser α) : List Lexeme → List α → List Lexeme → Prop
  | one {ts rest : List Lexeme} {a : α} : p ts = .ok (a, rest) → next rest ≠ some (.symbol ",") → Separated p ts [a] rest
  | more {ts ts' rest : List Lexeme} {a : α} {as : List α} {l : Lexeme} : p ts = .ok (a, l :: ts') → l.token = .symbol "," →
      ts'.length < ts.length → Separated p ts' as rest → Separated p ts (a :: as) rest

theorem Separated.commaLoop {as : List α} (h : Separated p ts as rest) {n : Nat} (hn : ts.length < n) :
    commaLoop p n ts = .ok (as, rest) := by
  induction h generalizing n with
  | one hp hr =>
    obtain ⟨n, rfl⟩ : ∃ m, n = m + 1 := ⟨n - 1, by omega⟩
    rw [Parser.commaLoop, bind_ok hp, bind_ok (takeSymbol_other hr)]
    rfl
  | more hp hl hlt _ ih =>
    obtain ⟨n, rfl⟩ : ∃ m, n = m + 1 := ⟨n - 1, by omega⟩
    rw [Parser.commaLoop, bind_ok hp, bind_ok (takeSymbol_next hl)]
    exact bind_ok (ih (by omega))

theorem Separated.commaList {as : List α} (h : Separated p ts as rest) : commaList p ts = .ok (as, rest) := by
  rw [Parser.commaList, bind_ok (remaining_apply ts)]
  exact h.commaLoop (Nat.lt_succ_self _)

/-! ## Rules that call no others -/

/-- A rule that leaves no tokens that were not there and never nests too deep. -/
structure Flat (p : Parser α) : Prop where
  keeps : ∀ ts a rest, p ts = .ok (a, rest) → ∀ l ∈ rest, l ∈ ts
  shallow : ∀ ts, p ts ≠ .error .tooDeep

theorem Flat.cases (h : Flat p) (ts : List Lexeme) : (∃ a rest, p ts = .ok (a, rest) ∧ ∀ l ∈ rest, l ∈ ts) ∨ Fails p ts := by
  cases hp : p ts with
  | ok x => exact .inl ⟨x.1, x.2, rfl, h.keeps ts x.1 x.2 hp⟩
  | error f =>
    cases f with
    | unexpected place => exact .inr ⟨place, hp⟩
    | tooDeep => exact absurd hp (h.shallow ts)

theorem bind_ne_tooDeep {f : α → Parser β} (hp : p ts ≠ .error .tooDeep)
    (hf : ∀ a rest, p ts = .ok (a, rest) → f a rest ≠ .error .tooDeep) : (p >>= f) ts ≠ .error .tooDeep := by
  rw [bind_apply]
  cases h : p ts with
  | ok x => exact hf x.1 x.2 h
  | error e =>
    intro he
    cases he
    exact hp h

theorem Flat.bind {f : α → Parser β} (hp : Flat p) (hf : ∀ a, Flat (f a)) : Flat (p >>= f) where
  keeps ts b rest h l hl := by
    obtain ⟨a, rest', h1, h2⟩ := bind_eq_ok h
    exact hp.keeps ts a rest' h1 l ((hf a).keeps rest' b rest h2 l hl)
  shallow ts := bind_ne_tooDeep (hp.shallow ts) fun a rest _ => (hf a).shallow rest

theorem flat_pure (a : α) : Flat (pure a : Parser α) where
  keeps ts b rest h l hl := by cases h; exact hl
  shallow ts h := by cases h

theorem flat_unexpected : Flat (unexpected : Parser α) where
  keeps ts b rest h := by cases h
  shallow ts h := by cases h

theorem flat_peek : Flat peek where
  keeps ts b rest h l hl := by cases h; exact hl
  shallow ts h := by cases h

theorem flat_remaining : Flat remaining where
  keeps ts b rest h l hl := by cases h; exact hl
  shallow ts h := by cases h

theorem flat_skip : Flat skip where
  keeps ts b rest h l hl := by cases h; exact List.mem_of_mem_drop hl
  shallow ts h := by cases h

theorem takeIf_cases (test : Token → Bool) (ts : List Lexeme) : ∃ b rest, takeIf test ts = .ok (b, rest) ∧ ∀ l ∈ rest, l ∈ ts := by
  cases ts with
  | nil => exact ⟨false, [], rfl, fun l hl => hl⟩
  | cons t ts =>
    by_cases ht : test t.token = true
    · exact ⟨true, ts, takeIf_true ht, fun l hl => List.mem_cons_of_mem _ hl⟩
    · exact ⟨false, t :: ts, by simp [takeIf, ht], fun l hl => hl⟩

theorem flat_takeIf (test : Token → Bool) : Flat (takeIf test) where
  keeps ts b rest h l hl := by
    obtain ⟨b', rest', h', hk⟩ := takeIf_cases test ts
    rw [h'] at h
    cases h
    exact hk l hl
  shallow ts h := by
    obtain ⟨b, rest, h', -⟩ := takeIf_cases test ts
    rw [h'] at h
    cases h

end SqlTemplate.Grammar
