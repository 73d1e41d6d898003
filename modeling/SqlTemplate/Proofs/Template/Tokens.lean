/-
A token of the lexer takes the template scanner from code to code: over plain text the scanner records a
`?` in it only if the token is a placeholder that begins with one, and then at its first character.

One lemma for each piece of text that a rule of the lexer reads, then one for the rules together.
-/
import SqlTemplate.Proofs.Template.Contested
import SqlTemplate.Proofs.Token.Lexer

namespace SqlTemplate.Template

/-! ## Quoted text -/

section Quoted

variable {d : Dialect} {p : Option Char} {q c : Char} {cs : List Char}

theorem clean_quoted (h : IsQuote q) : Scan.Clean ⟨.quoted q, p⟩ := by
  rcases h with rfl | rfl | rfl <;> exact fun h => absurd h (by decide)

theorem reaches_inQuotes (hq : IsQuote q) (h : c ≠ q) (hb : q = '\x27' → c ≠ '\\')
    (hp : Plain d ⟨.quoted q, p⟩ (c :: cs)) : Reaches d ⟨.quoted q, p⟩ (c :: cs) 1 [] ⟨.quoted q, some c⟩ :=
  (hp.step (clean_quoted hq) (.inQuotes h hb)).2

theorem reaches_escape {e : Char} (hp : Plain d ⟨.quoted '\x27', p⟩ ('\\' :: e :: cs)) :
    Reaches d ⟨.quoted '\x27', p⟩ ('\\' :: e :: cs) 2 [] ⟨.quoted '\x27', p⟩ :=
  (hp.step (clean_quoted (.inl rfl)) .escape).2

theorem reaches_doubled (hq : IsQuote q) (hp : Plain d ⟨.quoted q, p⟩ (q :: q :: cs)) :
    Reaches d ⟨.quoted q, p⟩ (q :: q :: cs) 2 [] ⟨.quoted q, p⟩ :=
  (hp.step (clean_quoted hq) (.doubled rfl)).2

/-- Digits of a code are passed over one by one. -/
theorem reaches_code (hq : IsQuote q) {code : List Char} (hc : ∀ c ∈ code, Text.isHexDigit c ∨ c = '+')
    (hp : Plain d ⟨.quoted q, p⟩ (code ++ cs)) :
    ∃ p', Reaches d ⟨.quoted q, p⟩ (code ++ cs) code.length [] ⟨.quoted q, p'⟩ := by
  have digit : ∀ x, Text.isHexDigit x ∨ x = '+' → x ≠ '\x27' ∧ x ≠ '"' ∧ x ≠ '\x60' ∧ x ≠ '\\' := by
    rintro x (hx | rfl)
    · refine ⟨?_, ?_, ?_, ?_⟩ <;> rintro rfl <;> exact absurd hx (by decide)
    · decide
  induction code generalizing p with
  | nil => exact ⟨p, .refl hp⟩
  | cons x code ih =>
    obtain ⟨h1, h2, h3, h4⟩ := digit x (hc x List.mem_cons_self)
    have hx : x ≠ q := by rcases hq with rfl | rfl | rfl <;> assumption
    have h := reaches_inQuotes hq hx (fun _ => h4) hp
    obtain ⟨p', h'⟩ := ih (fun c hm => hc c (List.mem_cons_of_mem _ hm)) h.plain
    refine ⟨p', ?_⟩
    rw [List.length_cons, Nat.add_comm]
    exact h.trans h'

/-- How a lexer treats backslashes in quotes, so far as it can agree with the scanner. -/
structure Escaping (d : Dialect) (quote : Char) (escapes : Bool) : Prop where
  isQuote : IsQuote quote
  plain : quote = '\x27' → escapes = false → d ≠ .mysql
  escapes : escapes = true → quote = '\x27' ∨ quote = '"' ∧ d = .mysql

/-- A quoted text takes the scanner from after its opening quote to code. -/
theorem returns_quoted {escapes : Bool} (he : Escaping d q escapes) {n : Nat} (h : Lexer.Quoted q escapes cs n)
    (hp : Plain d ⟨.quoted q, p⟩ cs) : Returns d ⟨.quoted q, p⟩ cs n [] := by
  have hq := he.isQuote
  induction hl : cs.length using Nat.strong_induction_on generalizing cs n p with
  | _ l ih =>
    subst hl
    cases h with
    | closing h => exact ⟨_, (hp.step (clean_quoted hq) (.closing h)).2⟩
    | doubled h =>
      have h2 := reaches_doubled hq hp
      have := h2.returns (ih _ (by simp only [List.length_cons, List.drop_succ_cons, List.drop_zero]; omega) h h2.plain rfl)
      rwa [Nat.add_comm] at this
    | @escape e code cs n hesc hcode h =>
      obtain ⟨p', h2⟩ : ∃ p', Reaches d ⟨.quoted q, p⟩ ('\\' :: e :: (code ++ cs)) 2 [] ⟨.quoted q, p'⟩ := by
        rcases he.escapes hesc with rfl | ⟨rfl, rfl⟩
        · exact ⟨p, reaches_escape hp⟩
        · have h1 := reaches_inQuotes hq (by decide) (by decide) hp
          have hne : e ≠ '"' := by
            rintro rfl
            have := (hp.step (clean_quoted hq) (.inQuotes (by decide) (by decide))).1
            simp [contested] at this
          have h2 := reaches_inQuotes hq hne (fun h => absurd h (by decide)) h1.plain
          exact ⟨_, h1.trans h2⟩
      obtain ⟨p'', h3⟩ := reaches_code hq hcode h2.plain
      have h4 := h2.trans h3
      have hd : ('\\' :: e :: (code ++ cs)).drop (2 + code.length) = cs := by simp [Nat.add_comm 2]
      have hp4 := h4.plain
      rw [hd] at hp4
      have := h4.returns (by rw [hd]; exact ih _ (by simp only [List.length_append, List.length_cons]; omega) h hp4 rfl)
      rwa [show 2 + code.length + n = n + code.length + 2 by omega] at this
    | @char c cs n hc hb h =>
      by_cases hesc : q = '\x27' ∧ c = '\\'
      · -- the scanner takes the next character along, which the lexer reads by itself
        obtain ⟨rfl, rfl⟩ := hesc
        have hf : escapes = false := by simpa using fun h => hb h rfl
        have hd := he.plain rfl hf
        obtain ⟨x, rest, rfl⟩ : ∃ x rest, cs = x :: rest := by
          cases h <;> exact ⟨_, _, rfl⟩
        have hx : x ≠ '\x27' := by
          rintro rfl
          have := (hp.step (clean_quoted hq) .escape).1
          simp [contested, hd] at this
        have h2 := reaches_escape hp
        cases h with
        | closing => exact absurd rfl hx
        | doubled => exact absurd rfl hx
        | escape h => rw [hf] at h; cases h
        | char _ _ h =>
          have := h2.returns (ih _ (by simp only [List.length_cons, List.drop_succ_cons, List.drop_zero]; omega) h h2.plain rfl)
          rwa [Nat.add_comm] at this
      · have h1 := reaches_inQuotes hq hc (fun h h' => hesc ⟨h, h'⟩) hp
        have := h1.returns (ih _ (by simp) h h1.plain rfl)
        rwa [Nat.add_comm] at this

end Quoted

/-! ## Comments -/

section Comments

variable {d : Dialect} {p : Option Char}

theorem returns_commentBody {cs : List Char} {n : Nat} (h : Lexer.commentBody (Lexer.nestsComments d) 1 cs = some n)
    (hp : Plain d ⟨.blockComment, p⟩ cs) : Returns d ⟨.blockComment, p⟩ cs n [] := by
  induction cs generalizing p n with
  | nil => cases h
  | cons c cs ih =>
    by_cases hc : c = '*' ∧ cs.head? = some '/'
    · obtain ⟨rfl, hc⟩ := hc
      obtain ⟨rest, rfl⟩ := List.head?_eq_some_iff.1 hc
      rw [Lexer.commentBody_closing] at h
      cases h
      exact ⟨_, (hp.step trivial (.blockEnd rfl)).2⟩
    · obtain ⟨h1, h2⟩ := hp.step trivial (.inBlock fun h h' => hc ⟨h, h'⟩)
      rw [Lexer.commentBody_char (by simpa [contested, and_assoc] using h1) hc] at h
      obtain ⟨m, hm, rfl⟩ := Option.map_eq_some_iff.1 h
      have := h2.returns (ih hm h2.plain)
      rwa [Nat.add_comm] at this

/-- Where the text ends, it does not matter in which state. -/
theorem Reaches.at_end {s t : Scan} {cs : List Char} {n : Nat} {xs : List Nat} (h : Reaches d s cs n xs t)
    (he : cs.drop n = []) : Returns d s cs n xs := by
  refine ⟨none, ?_, fun i => ?_⟩
  · rw [he]; exact ⟨rfl, by simp [scan]⟩
  · rw [h.offsets, he]; rfl

theorem returns_lineComment (hd : d ≠ .postgresql) {cs : List Char} (hp : Plain d ⟨.lineComment, p⟩ cs) :
    Returns d ⟨.lineComment, p⟩ cs (Lexer.lineComment d cs) [] := by
  induction cs generalizing p with
  | nil => exact (Reaches.refl hp).at_end rfl
  | cons c cs ih =>
    by_cases hc : c = '\n'
    · subst hc
      rw [Lexer.lineComment_newline]
      exact ⟨_, (hp.step trivial .lineEnd).2⟩
    · have h := (hp.step trivial (.inLine hc)).2
      rw [Lexer.lineComment_char cs hd hc, Nat.add_comm]
      exact h.returns (ih h.plain)

end Comments

/-! ## Code -/

section Code

variable {d : Dialect} {p : Option Char} {c : Char} {cs : List Char}

theorem Plain.uncontestedCode (hp : Plain d ⟨.code, p⟩ (c :: cs)) : contestedCode d c cs = false :=
  (hp.step trivial (step_moves d ⟨.code, p⟩ c cs)).1

theorem Plain.placeholder?_eq_none (hp : Plain d ⟨.code, p⟩ ('#' :: cs)) : placeholder? ('#' :: cs) = none := by
  rw [Option.eq_none_iff_forall_ne_some]
  rintro ⟨name, length⟩ h
  have hm : Moves d ⟨.code, p⟩ '#' cs _ := .code (.placeholder h)
  have hn := hp.unnamed (.named name) (by rw [scan_cons, hm.eq]; simp)
  cases hn

theorem dollarDelimiter?_eq_none (h : opensDollar cs = false) : dollarDelimiter? ('$' :: cs) = none := by
  rw [Option.eq_none_iff_forall_ne_some]
  intro delimiter hd
  obtain ⟨tag, rest, ht, -, he, -⟩ := dollarDelimiter?_eq_some_iff.1 hd
  simp only [List.cons_append, List.cons.injEq, true_and] at he
  have htag : ∀ x ∈ tag, (Text.isAlnum x || x == '_') = true := fun _ => tagChar_of_mem ht
  subst he
  unfold opensDollar at h
  rw [List.dropWhile_append_of_pos htag, List.dropWhile_cons_of_neg (by decide)] at h
  simp at h

theorem reaches_pass (h : passes d c cs.head? = true) (hp : Plain d ⟨.code, p⟩ (c :: cs)) :
    Reaches d ⟨.code, p⟩ (c :: cs) 1 [] ⟨.code, some c⟩ := by
  simp only [passes, Bool.and_eq_true, Bool.not_eq_true', List.contains_eq_mem, decide_eq_false_iff_not,
    List.mem_cons, List.not_mem_nil, or_false, not_or] at h
  obtain ⟨⟨⟨⟨h1, h2, h3, h4⟩, h5⟩, h6⟩, h7⟩ := h
  by_cases hh : c = '#'
  · subst hh
    have hm : Moves d ⟨.code, p⟩ '#' cs _ := .code (.hash hp.placeholder?_eq_none)
    have hd : d.hashComments = false := by simpa [Dialect.hashComments] using h5
    rw [hd] at hm
    exact (hp.step trivial hm).2
  · have hu := hp.uncontestedCode
    refine (hp.step trivial (.code (.plain ?_ h4 hh ?_ ?_ ?_))).2
    · rintro (h | h | h) <;> contradiction
    · rintro rfl h; simp [h] at h6
    · rintro rfl h; simp [h] at h7
    · rintro rfl -
      exact dollarDelimiter?_eq_none hu

theorem returns_passesAll {ws rest : List Char} (h : passesAll d ws rest = true)
    (hp : Plain d ⟨.code, p⟩ (ws ++ rest)) : Returns d ⟨.code, p⟩ (ws ++ rest) ws.length [] := by
  induction ws generalizing p with
  | nil => exact ⟨p, .refl hp⟩
  | cons c ws ih =>
    simp only [passesAll, Bool.and_eq_true] at h
    have h1 := reaches_pass h.1 hp
    have := h1.returns (ih h.2 h1.plain)
    rwa [Nat.add_comm] at this

end Code

/-! ## Tokens -/

section Tokens

variable {d : Dialect} {p : Option Char} {c : Char} {cs : List Char} {tok : Token} {n : Nat}

/-- Where in its text a token has a `?` that makes a marker. -/
def questionOffsets : Token → List Nat
  | .placeholder text => if Text.startsWith text "?" then [0] else []
  | _ => []

/-- Over a token of `n` characters the scanner gets from code to code and records what the token has. -/
structure Crosses (d : Dialect) (p : Option Char) (cs : List Char) (tok : Token) (n : Nat) : Prop where
  pos : 0 < n
  returns : Returns d ⟨.code, p⟩ cs n (questionOffsets tok)

theorem crosses_passesAll {ws rest : List Char} (h : passesAll d ws rest = true) (hw : ws ≠ [])
    (ht : questionOffsets tok = []) (hp : Plain d ⟨.code, p⟩ (ws ++ rest)) : Crosses d p (ws ++ rest) tok ws.length :=
  ⟨List.length_pos_iff.2 hw, by rw [ht]; exact returns_passesAll h hp⟩

theorem reaches_opening {q : Char} (hq : IsQuote q) (hp : Plain d ⟨.code, p⟩ (q :: cs)) :
    Reaches d ⟨.code, p⟩ (q :: cs) 1 [] ⟨.quoted q, some q⟩ :=
  (hp.step trivial (.code (.quote hq))).2

theorem crosses_quoted {q : Char} {escapes : Bool} (he : Escaping d q escapes) {ws : List Char}
    (hw : passesAll d ws (q :: cs) = true) (h : Lexer.Quoted q escapes cs n) (ht : questionOffsets tok = [])
    (hp : Plain d ⟨.code, p⟩ (ws ++ q :: cs)) : Crosses d p (ws ++ q :: cs) tok (ws.length + 1 + n) := by
  refine ⟨by omega, ?_⟩
  obtain ⟨p', h1⟩ := returns_passesAll hw hp
  have hd : (ws ++ q :: cs).drop ws.length = q :: cs := List.drop_left
  have hd' : (ws ++ q :: cs).drop (ws.length + 1) = cs := by
    rw [← List.drop_drop, hd]; rfl
  have hp1 := h1.plain
  rw [hd] at hp1
  have h2 := reaches_opening he.isQuote hp1
  have h12 := h1.trans (by rw [hd]; exact h2)
  have h3 := h12.returns (by rw [hd']; exact returns_quoted he h h2.plain)
  rw [ht]
  exact h3

/-! ### Words -/

/-- A class of characters is inert if none of those that matter to the scanner is in it. -/
theorem inert_of {test : Char → Bool} (ht : ['\x27', '"', '\x60', '?', '-', '/'].all (!test ·) = true)
    (hh : test '#' = true → d ≠ .mysql) (h : test c = true) : inert d c = true := by
  simp only [inert, Bool.and_eq_true, Bool.not_eq_true', List.contains_eq_mem, decide_eq_false_iff_not]
  refine ⟨fun hm => ?_, ?_⟩
  · have hc := List.all_eq_true.1 ht c hm
    rw [h] at hc
    cases hc
  · by_contra hc
    simp only [Bool.not_eq_false, Bool.and_eq_true, beq_iff_eq] at hc
    obtain ⟨rfl, rfl⟩ := hc
    exact hh h rfl

theorem inert_of_isIdentPart (h : Lexer.isIdentPart d c = true) : inert d c = true :=
  inert_of (by cases d <;> decide) (by rintro h rfl; exact absurd h (by decide)) h

theorem inert_of_isLetter (h : Text.isLetter c = true) : inert d c = true :=
  inert_of (by decide) (fun h => absurd h (by decide)) h

theorem inert_of_isHexDigit (h : Text.isHexDigit c = true) : inert d c = true :=
  inert_of (by decide) (fun h => absurd h (by decide)) h

theorem crosses_word {first : List Char} (hf : ∀ x ∈ first, inert d x = true) (hne : first ≠ [])
    (h : Lexer.word d first cs = .ok (tok, n)) (hp : Plain d ⟨.code, p⟩ (first ++ cs)) :
    Crosses d p (first ++ cs) tok n := by
  unfold Lexer.word Lexer.takeCount at h
  cases h
  have hs : first ++ cs = first ++ cs.takeWhile (Lexer.isIdentPart d) ++ cs.dropWhile (Lexer.isIdentPart d) := by
    rw [List.append_assoc, List.takeWhile_append_dropWhile]
  rw [hs] at hp ⊢
  have hi : ∀ x ∈ first ++ cs.takeWhile (Lexer.isIdentPart d), inert d x = true := by
    intro x hx
    rcases List.mem_append.1 hx with hx | hx
    · exact hf x hx
    · exact inert_of_isIdentPart (List.mem_takeWhile_imp hx)
  rw [← List.length_append]
  exact crosses_passesAll (passesAll_of_inert _ hi) (by simp [hne]) rfl hp

/-! ### Literals and quoted names -/

theorem crosses_literal {make : String → Token} {q : Char} {mode : Lexer.Backslash} {ws : List Char}
    (he : Escaping d q (mode != .plain)) (hw : passesAll d ws (q :: cs) = true)
    (hm : ∀ text, questionOffsets (make text) = []) (h : Lexer.literal make q mode ws.length cs = .ok (tok, n))
    (hp : Plain d ⟨.code, p⟩ (ws ++ q :: cs)) : Crosses d p (ws ++ q :: cs) tok n := by
  unfold Lexer.literal at h
  split at h
  · rename_i body m hb
    cases h
    have hq : '\\' ≠ q := by rcases he.isQuote with rfl | rfl | rfl <;> decide
    exact crosses_quoted he hw (Lexer.quoted_of_quotedBody hq hb) (hm _) hp
  · cases h

theorem crosses_quotedIdent {q : Char} (he : Escaping d q false) (h : Lexer.quotedIdent q q cs = .ok (tok, n))
    (hp : Plain d ⟨.code, p⟩ (q :: cs)) : Crosses d p (q :: cs) tok n := by
  unfold Lexer.quotedIdent at h
  split at h
  · rename_i body m hb
    cases h
    have hq : '\\' ≠ q := by rcases he.isQuote with rfl | rfl | rfl <;> decide
    have hw : passesAll d [] (q :: cs) = true := rfl
    have : Crosses d p ([] ++ q :: cs) (.quotedWord q body) _ :=
      crosses_quoted he hw (Lexer.quoted_of_quotedBody hq hb) rfl hp
    rwa [List.nil_append, List.length_nil, Nat.zero_add, Nat.add_comm] at this
  · cases h

theorem escaping_string : Escaping d '\x27' (Lexer.stringBackslash d != .plain) where
  isQuote := .inl rfl
  plain _ h := by rintro rfl; exact absurd h (by decide)
  escapes _ := .inl rfl

theorem escaping_always : Escaping d '\x27' true := ⟨.inl rfl, fun _ h => absurd h (by decide), fun _ => .inl rfl⟩

theorem escaping_double : Escaping d '"' false :=
  ⟨.inr (.inl rfl), fun h => absurd h (by decide), fun h => absurd h (by decide)⟩

/-- A backslash in a literal of bytes is contested where it escapes for the scanner. -/
theorem crosses_bytes (hw : passesAll d [c] ('\x27' :: cs) = true)
    (hu : d = .mysql → (Lexer.quotedBody '\x27' .plain cs).any (fun r => r.1.contains '\\') = false)
    (h : Lexer.literal (.bytes '\x27') '\x27' .plain 1 cs = .ok (tok, n)) (hp : Plain d ⟨.code, p⟩ (c :: '\x27' :: cs)) :
    Crosses d p (c :: '\x27' :: cs) tok n := by
  by_cases hd : d = .mysql
  · unfold Lexer.literal at h
    split at h
    · rename_i body m hb
      cases h
      have hm : '\\' ∉ body := by simpa [hb] using hu hd
      exact crosses_quoted escaping_always hw (.escapes_of_not_mem (by decide) hb hm) rfl hp
    · cases h
  · have he : Escaping d '\x27' (Lexer.Backslash.plain != .plain) :=
      ⟨.inl rfl, fun _ _ => hd, fun h => absurd h (by decide)⟩
    exact crosses_literal he hw (fun _ => rfl) h hp

theorem crosses_bracketed (hu : contestedCode d '[' cs = false) (hd : d = .sqlite ∨ d = .mssql)
    (h : Lexer.quotedIdent '[' ']' cs = .ok (tok, n)) (hp : Plain d ⟨.code, p⟩ ('[' :: cs)) :
    Crosses d p ('[' :: cs) tok n := by
  unfold Lexer.quotedIdent at h
  split at h
  · rename_i body m hb
    cases h
    have hm := (Lexer.quoted_of_quotedBody (by decide) hb).le_length
    have hpass : passesAll d (cs.take m) (cs.drop m) = true := by
      rcases hd with rfl | rfl <;> simpa [contestedCode, hb] using hu
    have hw : passesAll d ('[' :: cs.take m) (cs.drop m) = true := by
      rw [passesAll, hpass, Bool.and_true]
      exact passes_of_inert (by cases d <;> rfl)
    have hs : '[' :: cs = '[' :: cs.take m ++ cs.drop m := by simp
    have hl : m + 1 = ('[' :: cs.take m).length := by simp [hm]
    rw [hl]
    rw [hs] at hp ⊢
    exact crosses_passesAll hw (by simp) rfl hp
  · cases h

theorem crosses_lettered (h : Lexer.lettered d c cs = some (.ok (tok, n)))
    (hp : Plain d ⟨.code, p⟩ (c :: cs)) : Crosses d p (c :: cs) tok n := by
  have hu := hp.uncontestedCode
  -- the letter before the quote is passed over
  have letter : ∀ {x y : Char} {rest : List Char}, Text.isLetter x = true → c = x ∨ c = y → Text.isLetter y = true →
      passesAll d [c] rest = true := by
    rintro x y rest hx (rfl | rfl) hy <;>
      exact passesAll_of_inert _ (by simpa using inert_of_isLetter (by assumption))
  unfold Lexer.lettered at h
  split at h
  · rename_i rest
    simp only [Bool.and_eq_true, Bool.or_eq_true, beq_iff_eq] at h
    split_ifs at h with hb hr hn he hx
    · exact crosses_bytes (letter (by decide) hb.1 (by decide)) (by rcases hb.1 with rfl | rfl <;> simpa [contestedCode] using hu)
        (by simpa using h) hp
    · have hg : d = .generic := by simpa [Lexer.hasRawStrings] using hr.2
      subst hg
      rcases hr.1 with rfl | rfl <;> simp [contestedCode] at hu
    · exact crosses_literal escaping_string (letter (by decide) hn (by decide)) (fun _ => rfl) (by simpa using h) hp
    · split at h
      · rename_i body m hb
        cases h
        have : Crosses d p ([c] ++ '\x27' :: rest) (.escaped (String.ofList body)) _ :=
          crosses_quoted escaping_always (letter (by decide) he.1 (by decide)) (Lexer.quoted_of_escapedBody hb) rfl hp
        rwa [List.length_singleton, Nat.add_comm] at this
      · cases h
    · have he : Escaping d '\x27' (Lexer.hexBackslash d != .plain) := by
        have : (Lexer.hexBackslash d != .plain) = true := by cases d <;> decide
        rw [this]
        exact escaping_always
      exact crosses_literal he (letter (by decide) hx (by decide)) (fun _ => rfl) (by simpa using h) hp
  · rename_i rest
    simp only [Bool.and_eq_true, Bool.or_eq_true, beq_iff_eq] at h
    split_ifs at h with hb hr
    · have he : Escaping d '"' (Lexer.Backslash.plain != .plain) := escaping_double
      exact crosses_literal he (letter (by decide) hb.1 (by decide)) (fun _ => rfl) (by simpa using h) hp
    · have hg : d = .generic := by simpa [Lexer.hasRawStrings] using hr.2
      subst hg
      rcases hr.1 with rfl | rfl <;> simp [contestedCode] at hu
  · rename_i rest
    simp only [Bool.and_eq_true, Bool.or_eq_true, beq_iff_eq] at h
    split_ifs at h with hc
    cases hb : Lexer.unicodeBody 0 3 rest with
    | error e => rw [hb] at h; cases h
    | ok r =>
      rw [hb] at h
      cases h
      obtain ⟨m, hm, hq⟩ := Lexer.quoted_of_unicodeBody hb
      have hw : passesAll d [c, '&'] ('\x27' :: rest) = true := by
        have hand : inert d '&' = true := by cases d <;> rfl
        rw [show [c, '&'] = [c] ++ ['&'] from rfl, passesAll_append, Bool.and_eq_true]
        exact ⟨letter (by decide) hc.1 (by decide), passesAll_of_inert _ (by simpa using hand)⟩
      have : Crosses d p ([c, '&'] ++ '\x27' :: rest) (.unicode (String.ofList r.1)) _ :=
        crosses_quoted escaping_always hw hq rfl hp
      rw [hm]
      exact this
  · cases h

/-! ### Numbers -/

theorem digitGroups_eq_false (hd : d ≠ .postgresql) : Lexer.digitGroups d = false := by
  cases d <;> first | rfl | exact absurd rfl hd

theorem digits_eq_takeWhile (hd : d ≠ .postgresql) (hexadecimal : Bool) (cs : List Char) :
    Lexer.digits d hexadecimal cs = cs.takeWhile fun c => if hexadecimal then Text.isHexDigit c else c.isDigit := by
  induction cs with
  | nil => rfl
  | cons c cs ih =>
    simp only [Lexer.digits, digitGroups_eq_false hd, Bool.false_and, Bool.or_false, List.takeWhile_cons, ih]

/-- The characters of a number that it may have anywhere. -/
theorem inert_of_mem_digits (hd : d ≠ .postgresql) {hexadecimal : Bool}
    (h : c ∈ Lexer.digits d hexadecimal cs) : inert d c = true := by
  rw [digits_eq_takeWhile hd] at h
  have := List.mem_takeWhile_imp h
  refine inert_of_isHexDigit ?_
  split_ifs at this
  · exact this
  · simp [Text.isHexDigit, this]

/-- An exponent is empty, or ends in digits: a minus sign in it is followed by one. -/
theorem passesAll_exponent (cs : List Char) :
    ∃ rest, cs = Lexer.exponent cs ++ rest ∧ passesAll d (Lexer.exponent cs) rest = true := by
  have inertDigits : ∀ r : List Char, ∀ x ∈ r.takeWhile Char.isDigit, inert d x = true := fun r x hx =>
    inert_of_isHexDigit (by simp [Text.isHexDigit, List.mem_takeWhile_imp hx])
  -- an empty exponent, and one whose sign is followed by digits
  have none : ∃ rest, cs = [] ++ rest ∧ passesAll d [] rest = true := ⟨cs, rfl, rfl⟩
  have some : ∀ {e : Char} {sign r : List Char}, cs = e :: (sign ++ r) → (e = 'e' ∨ e = 'E') →
      sign = [] ∨ sign = ['+'] ∨ sign = ['-'] → r.takeWhile Char.isDigit ≠ [] →
      ∃ rest, cs = (e :: sign ++ r.takeWhile Char.isDigit) ++ rest ∧
        passesAll d (e :: sign ++ r.takeWhile Char.isDigit) rest = true := by
    intro e sign r hcs he hs hr
    refine ⟨r.dropWhile Char.isDigit, ?_, ?_⟩
    · rw [List.append_assoc, List.takeWhile_append_dropWhile, hcs]; rfl
    · obtain ⟨x, xs, hx⟩ := List.exists_cons_of_ne_nil hr
      have hxd : x.isDigit = true := List.mem_takeWhile_imp (hx ▸ List.mem_cons_self)
      have hdig := passesAll_of_inert (r.dropWhile Char.isDigit) (inertDigits r)
      have hsign : passesAll d sign (r.takeWhile Char.isDigit ++ r.dropWhile Char.isDigit) = true := by
        rcases hs with rfl | rfl | rfl
        · rfl
        · exact passesAll_of_inert _ (by simp; cases d <;> rfl)
        · have : x ≠ '-' := by rintro rfl; exact absurd hxd (by decide)
          simp [passesAll, passes, hx, this]
      have hletter : passes d e ((sign ++ r.takeWhile Char.isDigit) ++ r.dropWhile Char.isDigit).head? = true :=
        passes_of_inert (inert_of_isLetter (by rcases he with rfl | rfl <;> decide))
      rw [List.cons_append, passesAll, hletter, passesAll_append, hsign, hdig]; rfl
  unfold Lexer.exponent
  split
  · rename_i e rest
    simp only [Bool.or_eq_true, beq_iff_eq, List.isEmpty_iff]
    split_ifs with he h
    · exact none
    · split at h
      · exact some rfl he (.inr (.inl rfl)) h
      · exact some rfl he (.inr (.inr rfl)) h
      · exact some rfl he (.inl rfl) h
    · exact none
  · exact none

theorem append_prefix_of_drop {xs ys l : List Char} (hx : xs <+: l) (hy : ys <+: l.drop xs.length) : xs ++ ys <+: l := by
  obtain ⟨r, rfl⟩ := hx
  rw [List.drop_left] at hy
  exact (List.prefix_append_right_inj xs).2 hy

theorem crosses_inert {ws : List Char} (hs : ws <+: cs) (hw : ws ≠ []) (hi : ∀ x ∈ ws, inert d x = true)
    (ht : questionOffsets tok = []) (hp : Plain d ⟨.code, p⟩ cs) : Crosses d p cs tok ws.length := by
  obtain ⟨rest, rfl⟩ := hs
  exact crosses_passesAll (passesAll_of_inert rest hi) hw ht hp

theorem crosses_hex (hd : d ≠ .postgresql) (hp : Plain d ⟨.code, p⟩ ('0' :: 'x' :: cs)) :
    Crosses d p ('0' :: 'x' :: cs) (.hex (String.ofList (Lexer.digits d true cs)))
      ((Lexer.digits d true cs).length + 2) := by
  have hs : '0' :: 'x' :: Lexer.digits d true cs <+: '0' :: 'x' :: cs := by
    simp only [List.cons_prefix_cons, true_and]
    rw [digits_eq_takeWhile hd]; exact List.takeWhile_prefix _
  refine crosses_inert hs (by simp) (fun x hx => ?_) rfl hp
  rcases List.mem_cons.1 hx with rfl | hx
  · exact inert_of_isHexDigit (by decide)
  rcases List.mem_cons.1 hx with rfl | hx
  · exact inert_of_isLetter (by decide)
  · exact inert_of_mem_digits hd hx

theorem crosses_number (hd : d ≠ .postgresql) {previous : Option Token} (hc : c.isDigit = true ∨ c = '.')
    (h : Lexer.number d previous (c :: cs) = .ok (tok, n)) (hp : Plain d ⟨.code, p⟩ (c :: cs)) :
    Crosses d p (c :: cs) tok n := by
  have hdot : inert d '.' = true := by cases d <;> rfl
  have dot : ['.'] <+: c :: cs → Crosses d p (c :: cs) (.symbol ".") 1 := fun h =>
    crosses_inert h (by simp) (by simpa using hdot) rfl hp
  have hdigits : ∀ b l, Lexer.digits d b l <+: l := fun b l => by
    rw [digits_eq_takeWhile hd]; exact List.takeWhile_prefix _
  unfold Lexer.number at h
  split_ifs at h with h1 h2
  · cases h
    simp only [Bool.and_eq_true, beq_iff_eq, List.head?_cons, Option.some.injEq] at h1
    exact dot ⟨cs, by rw [← h1.1]; rfl⟩
  · extract_lets whole afterWhole hex point start mantissa isMarked exp text after tail at h
    have hwhole : whole <+: c :: cs := hdigits _ _
    have hstart : start <+: c :: cs := by
      refine append_prefix_of_drop hwhole ?_
      simp only [point]
      split_ifs with h
      · obtain ⟨r, hr⟩ := List.head?_eq_some_iff.1 (beq_iff_eq.1 h)
        exact ⟨r, hr.symm⟩
      · exact List.nil_prefix
    have hmant : mantissa <+: c :: cs := append_prefix_of_drop hstart (hdigits _ _)
    have hmi : ∀ x ∈ mantissa, inert d x = true := by
      intro x hx
      rcases List.mem_append.1 hx with hx | hx
      · rcases List.mem_append.1 hx with hx | hx
        · exact inert_of_mem_digits hd hx
        · have : x = '.' := by
            simp only [point] at hx
            split_ifs at hx
            · simpa using hx
            · cases hx
          rw [this]; exact hdot
      · exact inert_of_mem_digits hd hx
    have hmne : mantissa ≠ [] := by
      rcases hc with hc | rfl
      · simp [mantissa, start, whole, Lexer.digits, hc]
      · simp [mantissa, start, point, afterWhole, whole, Lexer.digits, digitGroups_eq_false hd]
    obtain ⟨rest, hrest, hexp⟩ := passesAll_exponent (d := d) ((c :: cs).drop mantissa.length)
    have hsplit : c :: cs = text ++ rest := by
      rw [List.append_assoc, ← hrest]
      exact (List.prefix_iff_eq_append.1 hmant).symm
    have hafter : after = rest := by
      simp only [after]
      rw [hsplit, List.drop_left]
    have htext : passesAll d text rest = true := by
      rw [passesAll_append, passesAll_of_inert _ hmi, hexp]; rfl
    have htne : text ≠ [] := fun h => hmne (List.append_eq_nil_iff.1 h).1
    have longer : ∀ {ws : List Char} {t : Token}, (∀ x ∈ ws, inert d x = true) → ws <+: rest →
        questionOffsets t = [] → Crosses d p (c :: cs) t (text.length + ws.length) := by
      rintro ws t hi ⟨rest', rfl⟩ ht
      rw [hsplit, ← List.append_assoc] at hp ⊢
      rw [← List.length_append]
      refine crosses_passesAll ?_ (by simp [htne]) ht hp
      rw [passesAll_append, htext, passesAll_of_inert _ hi]; rfl
    split_ifs at h with h2 h3 h4 h5 h6 h7
    · cases h
      simp only [Bool.and_eq_true, beq_iff_eq] at h2
      obtain ⟨r, hr⟩ := List.head?_eq_some_iff.1 h2.2
      have hcs : '0' :: 'x' :: r = c :: cs := by
        rw [← List.prefix_iff_eq_append.1 hwhole, h2.1]
        simp only [afterWhole, h2.1] at hr
        rw [hr]; rfl
      have hx : hex = Lexer.digits d true r := by simp only [hex]; rw [hr]; rfl
      rw [hx, ← hcs]
      exact crosses_hex hd (hcs ▸ hp)
    · cases h
      simp only [Bool.and_eq_true, beq_iff_eq] at h3
      exact dot (h3.1.1 ▸ hstart)
    · cases h
      exact dot (beq_iff_eq.1 h4 ▸ hmant)
    · cases h
      have ht : tail <+: rest := by simp only [tail, hafter]; exact List.takeWhile_prefix _
      exact longer (fun x hx => inert_of_isIdentPart (List.mem_takeWhile_imp hx)) ht rfl
    · cases h
      exact longer (by simp) List.nil_prefix rfl
    · cases h
      rw [hafter, beq_iff_eq] at h7
      obtain ⟨r, rfl⟩ := List.head?_eq_some_iff.1 h7
      have hl : ∀ x ∈ ['L'], inert d x = true := by
        intro x hx
        rw [List.mem_singleton.1 hx]
        exact inert_of_isLetter (by decide)
      exact longer hl ⟨r, rfl⟩ rfl
    · cases h
      exact longer (by simp) List.nil_prefix rfl

/-! ### Operators -/

theorem operatorIn?_some {table : List (String × String)} {e : String × String}
    (h : Lexer.operatorIn? table cs = some e) : e ∈ table ∧ e.1.toList <+: cs := by
  have hs := List.find?_some h
  exact ⟨List.mem_of_find?_eq_some h, by simpa using hs⟩

theorem fixedOperators_inert : ∀ e ∈ Lexer.fixedOperators, e.1.toList ≠ [] ∧ ∀ x ∈ e.1.toList, inert .mysql x = true := by
  have hall : (Lexer.fixedOperators.all fun e => !e.1.toList.isEmpty && e.1.toList.all (inert .mysql)) = true := by decide
  simpa [List.all_eq_true] using hall

/-- The operators with a minus sign or a slash in them are few. -/
theorem openOperators_inert : ∀ e ∈ Lexer.openOperators,
    e.1.toList ∈ [['-', '>', '>'], ['-', '>'], ['-'], ['|', '|', '/'], ['|', '/'], ['#', '-']] ∨
      e.1.toList ≠ [] ∧ ∀ x ∈ e.1.toList, inert .generic x = true ∧ (x = '#' → e.1.toList.head? = some '#') := by
  have hall : (Lexer.openOperators.all fun e =>
      decide (e.1.toList ∈ [['-', '>', '>'], ['-', '>'], ['-'], ['|', '|', '/'], ['|', '/'], ['#', '-']]) ||
        !e.1.toList.isEmpty && e.1.toList.all fun x => inert .generic x && (x != '#' || e.1.toList.head? == some '#')) = true := by
    decide
  intro e he
  have h := List.all_eq_true.1 hall e he
  simp only [Bool.or_eq_true, decide_eq_true_eq, Bool.and_eq_true, Bool.not_eq_true', List.isEmpty_eq_false_iff,
    List.all_eq_true, bne_iff_ne, ne_eq, beq_iff_eq] at h
  exact h.imp_right fun h => ⟨h.1, fun x hx => ⟨(h.2 x hx).1, (h.2 x hx).2.resolve_left ∘ not_not_intro⟩⟩

theorem inert_of_mysql (h : inert .mysql c = true) : inert d c = true := by
  cases d <;> simp_all [inert]

theorem inert_of_generic (h : inert .generic c = true) (hc : c = '#' → d ≠ .mysql) : inert d c = true := by
  by_cases hd : d = .mysql
  · subst hd
    have : c ≠ '#' := fun h => hc h rfl
    simpa [inert, this] using h
  · simpa [inert, hd] using h

/-- A slash that ends an operator begins no comment. -/
theorem passes_slash (hp : Plain d ⟨.code, p⟩ ('|' :: '/' :: cs)) : passes d '/' cs.head? = true := by
  have hu := hp.uncontestedCode
  cases cs with
  | nil => simp [passes]
  | cons x cs => simpa [contestedCode, passes] using hu

theorem crosses_openOperator {e : String × String} (he : e ∈ Lexer.openOperators) (hs : e.1.toList <+: c :: cs)
    (hh : c = '#' → d ≠ .mysql) (hm : c = '-' → cs.head? ≠ some '-') (ht : questionOffsets tok = [])
    (hp : Plain d ⟨.code, p⟩ (c :: cs)) : Crosses d p (c :: cs) tok e.1.length := by
  rw [← String.length_toList]
  have hgt : inert d '>' = true ∧ inert d '|' = true := by cases d <;> exact ⟨rfl, rfl⟩
  rcases openOperators_inert e he with h | ⟨hne, hi⟩
  · simp only [List.mem_cons, List.not_mem_nil, or_false] at h
    rcases h with h | h | h | h | h | h <;> rw [h] at hs ⊢ <;> obtain ⟨rest, hr⟩ := hs <;> rw [← hr] at hp ⊢ <;>
      simp only [List.cons_append, List.nil_append, List.cons.injEq] at hr <;> obtain ⟨rfl, rfl⟩ := hr <;>
      refine crosses_passesAll ?_ (by simp) ht hp
    · simp [passesAll, passes_of_inert hgt.1]; simp [passes]
    · simp [passesAll, passes_of_inert hgt.1]; simp [passes]
    · simpa [passesAll, passes] using hm rfl
    · have hp' := (reaches_pass (passes_of_inert hgt.2) hp).plain
      simpa [passesAll, passes_of_inert hgt.2] using passes_slash hp'
    · simpa [passesAll, passes_of_inert hgt.2] using passes_slash hp
    · have hu := hp.uncontestedCode
      simp [contestedCode, hh rfl] at hu
  · refine crosses_inert hs hne (fun x hx => inert_of_generic (hi x hx).1 fun h => ?_) ht hp
    have hhead := (hi x hx).2 h
    obtain ⟨rest, hr⟩ := hs
    obtain ⟨ys, hy⟩ := List.head?_eq_some_iff.1 hhead
    rw [hy] at hr
    exact hh (List.cons.inj hr).1.symm

theorem isOperatorPart_eq_false (hd : d ≠ .postgresql) : Lexer.isOperatorPart d c = false := by
  simp [Lexer.isOperatorPart, hd]

theorem operator_ok (hd : d ≠ .postgresql) {spelling canonical : String}
    (h : Lexer.operator d spelling canonical cs = .ok (tok, n)) : tok = .symbol canonical ∧ n = spelling.length := by
  have hm : (cs.drop spelling.length).takeWhile (Lexer.isOperatorPart d) = [] := by
    cases cs.drop spelling.length with
    | nil => rfl
    | cons x xs => rw [List.takeWhile_cons_of_neg (by simp [isOperatorPart_eq_false hd])]
  simp only [Lexer.operator, hm] at h
  cases h
  exact ⟨rfl, rfl⟩

/-- A symbol of inert characters. -/
theorem crosses_plain {text : String} (hs : text.toList <+: cs) (hw : text.toList ≠ [])
    (hi : ∀ x ∈ text.toList, inert d x = true) (h : Lexer.plain text = .ok (tok, n)) (hp : Plain d ⟨.code, p⟩ cs) :
    Crosses d p cs tok n := by
  cases h
  rw [← String.length_toList]
  exact crosses_inert hs hw hi rfl hp

theorem crosses_hash (hd : d ≠ .postgresql) (hh : d ≠ .mysql) (h : Lexer.hash d ('#' :: cs) = .ok (tok, n))
    (hp : Plain d ⟨.code, p⟩ ('#' :: cs)) : Crosses d p ('#' :: cs) tok n := by
  have hi : inert d '#' = true := inert_of_generic rfl fun _ => hh
  have alone : Lexer.plain "#" = .ok (tok, n) → Crosses d p ('#' :: cs) tok n := fun h =>
    crosses_plain ⟨cs, rfl⟩ (by decide) (by simpa using hi) h hp
  unfold Lexer.hash at h
  split at h
  · rename_i x next rest heq
    obtain ⟨rfl, rfl⟩ := List.cons.inj heq
    split_ifs at h with h1 h2 h3
    · exact alone h
    · simp [hd] at h3
    · split at h
      · rename_i spelling canonical hop
        obtain ⟨hmem, hpre⟩ := operatorIn?_some hop
        obtain ⟨rfl, rfl⟩ := operator_ok hd h
        exact crosses_openOperator hmem hpre (fun _ => hh) (fun h => absurd h (by decide)) rfl hp
      · exact alone h
    · have hn : inert d next = true := by
        have hu := hp.uncontestedCode
        simp [contestedCode, hh] at hu
        simp [inert, hh, hu]
      have hw : ∀ x ∈ ['#', next], inert d x = true := by simp [hi, hn]
      exact crosses_word hw (by simp) h hp
  · exact alone h

theorem crosses_atSign (hd : d ≠ .postgresql) (h : Lexer.atSign d ('@' :: cs) = .ok (tok, n))
    (hp : Plain d ⟨.code, p⟩ ('@' :: cs)) : Crosses d p ('@' :: cs) tok n := by
  have hu := hp.uncontestedCode
  have hi : inert d '@' = true ∧ inert d '>' = true := by cases d <;> exact ⟨rfl, rfl⟩
  unfold Lexer.atSign at h
  split at h
  · rename_i x rest heq
    obtain ⟨rfl, rfl⟩ := List.cons.inj heq
    exact crosses_plain ⟨rest, rfl⟩ (by decide) (by simp [hi]) h hp
  · rename_i x rest heq
    obtain ⟨rfl, rfl⟩ := List.cons.inj heq
    simp [contestedCode] at hu
  · rename_i x rest heq
    obtain ⟨rfl, rfl⟩ := List.cons.inj heq
    have hp' := (reaches_pass (passes_of_inert hi.1) hp).plain
    have hu' := hp'.uncontestedCode
    split at h
    · rename_i y after
      split_ifs at h
      · exact crosses_plain ⟨y :: after, rfl⟩ (by decide) (by simp [hi]) h hp
      · have hy : inert d y = true := by
          simp only [contestedCode] at hu hu'
          simp at hu hu'
          simp [inert, hu, hu']
        have hw : ∀ x ∈ ['@', '@', y], inert d x = true := by simp [hi, hy]
        exact crosses_word hw (by simp) h hp
    · exact crosses_plain ⟨[], rfl⟩ (by decide) (by simp [hi]) h hp
  · rename_i x y rest _ _ _ heq
    obtain ⟨rfl, rfl⟩ := List.cons.inj heq
    split_ifs at h with hc
    · exact crosses_plain ⟨y :: rest, rfl⟩ (by decide) (by simp [hi]) h hp
    · have hy : inert d y = true := by
        simp only [contestedCode] at hu
        simp at hu hc
        simp [inert, hu, hc]
      have hw : ∀ x ∈ ['@', y], inert d x = true := by simp [hi, hy]
      exact crosses_word hw (by simp) h hp
  · exact crosses_plain ⟨cs, rfl⟩ (by decide) (by simp [hi]) h hp

/-! ### Placeholders -/

/-- Where no delimiter opens, the name after a dollar sign is not followed by another. -/
theorem drop_name_ne (h : opensDollar cs = false) (names : Bool) {rest : List Char} :
    cs.drop (cs.takeWhile fun c => Text.isAlnum c || c == '_' || (c == '$' && names)).length ≠ '$' :: rest := by
  set test : Char → Bool := fun c => Text.isAlnum c || c == '_' || (c == '$' && names) with htest
  have hdrop : cs.drop (cs.takeWhile test).length = cs.dropWhile test := by
    conv_lhs => arg 2; rw [← List.takeWhile_append_dropWhile (p := test) (l := cs)]
    exact List.drop_left
  rw [hdrop]
  intro he
  cases names with
  | true =>
    have := List.head?_dropWhile_not test cs
    rw [he] at this
    simp [htest] at this
  | false =>
    simp only [htest, Bool.and_false, Bool.or_false] at he
    simp [opensDollar, he] at h

theorem crosses_dollar (h : Lexer.dollar d cs = .ok (tok, n)) (hp : Plain d ⟨.code, p⟩ ('$' :: cs)) :
    Crosses d p ('$' :: cs) tok n := by
  have hu : opensDollar cs = false := hp.uncontestedCode
  have name : Lexer.dollar.name d cs = .ok (tok, n) → Crosses d p ('$' :: cs) tok n := by
    intro h
    simp only [Lexer.dollar.name, Lexer.takeCount] at h
    split at h
    · rename_i body he
      exact absurd he (drop_name_ne hu _)
    · cases h
      refine crosses_inert (List.cons_prefix_cons.2 ⟨rfl, List.takeWhile_prefix _⟩) (by simp) ?_ ?_ hp
      · intro x hx
        rcases List.mem_cons.1 hx with rfl | hx
        · exact inert_of_mysql rfl
        · have ht := List.mem_takeWhile_imp hx
          simp only [Bool.or_eq_true, Bool.and_eq_true, beq_iff_eq] at ht
          rcases ht with (ht | rfl) | ⟨rfl, -⟩
          · exact inert_of (by decide) (fun h => absurd h (by decide)) ht
          · exact inert_of_mysql rfl
          · exact inert_of_mysql rfl
      · simp [questionOffsets, Text.startsWith]
  unfold Lexer.dollar at h
  split at h
  · rename_i body
    have ho : opensDollar ('$' :: body) = true := by
      unfold opensDollar
      rw [List.dropWhile_cons_of_neg (by decide)]; rfl
    rw [ho] at hu
    cases hu
  · exact name h

/-- A question mark is recorded, and the numerals after it are passed over. -/
theorem crosses_question (hp : Plain d ⟨.code, p⟩ ('?' :: cs)) :
    Crosses d p ('?' :: cs) (.placeholder (String.ofList ('?' :: cs.takeWhile Text.isNumeral)))
      ((cs.takeWhile Text.isNumeral).length + 1) := by
  refine ⟨Nat.succ_pos _, ?_⟩
  have h1 : Reaches d ⟨.code, p⟩ ('?' :: cs) 1 [0] ⟨.code, some '?'⟩ := (hp.step trivial (.code .question)).2
  have hi : ∀ x ∈ cs.takeWhile Text.isNumeral, inert d x = true := fun x hx =>
    inert_of (by decide) (fun h => absurd h (by decide)) (List.mem_takeWhile_imp hx)
  have hp1 : Plain d ⟨.code, some '?'⟩ cs := h1.plain
  rw [← List.takeWhile_append_dropWhile (p := Text.isNumeral) (l := cs)] at hp1
  have h2 := returns_passesAll (passesAll_of_inert _ hi) hp1
  rw [List.takeWhile_append_dropWhile] at h2
  have := h1.returns h2
  rw [Nat.add_comm]
  simpa [questionOffsets, Text.startsWith] using this

/-! ### Any token -/

theorem reaches_blockComment (hp : Plain d ⟨.code, p⟩ ('/' :: '*' :: cs)) :
    Reaches d ⟨.code, p⟩ ('/' :: '*' :: cs) 2 [] ⟨.blockComment, p⟩ :=
  (hp.step trivial (.code (.blockComment rfl))).2

theorem reaches_hashComment (hp : Plain .mysql ⟨.code, p⟩ ('#' :: cs)) :
    Reaches .mysql ⟨.code, p⟩ ('#' :: cs) 1 [] ⟨.lineComment, some '#'⟩ :=
  (hp.step trivial (.code (.hash hp.placeholder?_eq_none))).2

theorem crosses_blank (hd : d ≠ .postgresql) (h : Lexer.blank? d c cs = some (.ok n))
    (hp : Plain d ⟨.code, p⟩ (c :: cs)) : Crosses d p (c :: cs) .blank n := by
  have one : inert d c = true → Crosses d p (c :: cs) .blank 1 := fun hi =>
    have hs : [c] <+: c :: cs := ⟨cs, rfl⟩
    crosses_inert hs (by simp) (by simpa using hi) rfl hp
  unfold Lexer.blank? at h
  simp only [Bool.or_eq_true, Bool.and_eq_true, beq_iff_eq, bne_iff_ne] at h
  split_ifs at h with h1 h2 h3 h4 h5 h6
  · cases h
    exact one (by rcases h1 with (rfl | rfl) | rfl <;> exact inert_of_mysql rfl)
  · cases h
    subst h2
    obtain ⟨rest, rfl⟩ := List.head?_eq_some_iff.1 h3
    have hs : ['\r', '\n'] <+: '\r' :: '\n' :: rest := ⟨rest, rfl⟩
    refine crosses_inert hs (by simp) (fun x hx => ?_) rfl hp
    simp only [List.mem_cons, List.not_mem_nil, or_false] at hx
    rcases hx with rfl | rfl <;> exact inert_of_mysql rfl
  · cases h
    subst h2
    exact one (inert_of_mysql rfl)
  · cases h
    obtain ⟨⟨rfl, h4⟩, -⟩ := h4
    obtain ⟨rest, rfl⟩ := List.head?_eq_some_iff.1 h4
    have h1 : Reaches d ⟨.code, p⟩ ('-' :: '-' :: rest) 1 [] ⟨.lineComment, some '-'⟩ :=
      (hp.step trivial (.code (.lineComment rfl))).2
    have h2 := h1.returns (returns_lineComment hd h1.plain)
    rw [List.drop_succ_cons, List.drop_zero, Lexer.lineComment_char rest hd (by decide), Nat.add_comm] at h2
    exact ⟨by omega, h2⟩
  · obtain ⟨rfl, h5⟩ := h5
    obtain ⟨rest, rfl⟩ := List.head?_eq_some_iff.1 h5
    split at h
    · rename_i m hm
      cases h
      have h2 := reaches_blockComment hp
      have := h2.returns (returns_commentBody hm h2.plain)
      rw [Nat.add_comm] at this
      exact ⟨by omega, this⟩
    · cases h
  · cases h
    obtain ⟨rfl, rfl⟩ := h6
    have h1 := reaches_hashComment hp
    have h2 := h1.returns (returns_lineComment hd h1.plain)
    rw [Nat.add_comm] at h2
    exact ⟨by omega, h2⟩

theorem head_ne_of_minus (hb : Lexer.blank? d '-' cs = none) (hu : contestedCode d '-' cs = false) :
    cs.head? ≠ some '-' := by
  intro h
  obtain ⟨rest, rfl⟩ := List.head?_eq_some_iff.1 h
  by_cases hd : d = .mysql
  · subst hd
    simp [Lexer.blank?, contestedCode] at hb hu
    exact hb hu
  · simp [Lexer.blank?, hd] at hb

theorem head_ne_of_slash (hb : Lexer.blank? d '/' cs = none) : cs.head? ≠ some '*' := by
  intro h
  simp only [Lexer.blank?, h] at hb
  simp at hb
  split at hb <;> cases hb

theorem crosses_slash (hb : Lexer.blank? d '/' cs = none)
    (h : (if d == .generic && cs.head? == some '/' then Lexer.plain "//" else Lexer.plain "/") = .ok (tok, n))
    (hp : Plain d ⟨.code, p⟩ ('/' :: cs)) : Crosses d p ('/' :: cs) tok n := by
  have hu := hp.uncontestedCode
  have hne := head_ne_of_slash hb
  split_ifs at h with hg
  · simp only [Bool.and_eq_true, beq_iff_eq] at hg
    obtain ⟨rfl, hg⟩ := hg
    obtain ⟨rest, rfl⟩ := List.head?_eq_some_iff.1 hg
    cases h
    have hw : passesAll .generic ['/', '/'] rest = true := by
      cases rest <;> simp [contestedCode, passesAll, passes] at hu ⊢
      exact hu
    exact crosses_passesAll hw (by simp) rfl hp
  · cases h
    have hw : passesAll d ['/'] cs = true := by simpa [passesAll, passes] using hne
    exact crosses_passesAll hw (by simp) rfl hp

theorem inert_of_bare (hd : d ≠ .postgresql) (h : Lexer.Bare d c cs) (hu : contestedCode d c cs = false) :
    inert d c = true := by
  obtain ⟨⟨h1, h2, h3⟩, ⟨h4, -, h5, h6⟩, h7⟩ := h
  have h8 : c ≠ '\x60' := by
    rintro rfl
    cases d <;> simp_all [Lexer.identQuote?, contestedCode]
  have h9 : c ≠ '-' := by
    rintro rfl
    rw [Lexer.operatorIn?, List.find?_eq_none] at h7
    exact h7 ("-", "-") (by decide) (by simp)
  simp [inert, h1, h2, h4, h5, h6, h8, h9]

theorem crosses_solid (hd : d ≠ .postgresql) {previous : Option Token} (hb : Lexer.blank? d c cs = none)
    (h : Lexer.solid d previous c cs = .ok (tok, n)) (hp : Plain d ⟨.code, p⟩ (c :: cs)) :
    Crosses d p (c :: cs) tok n := by
  have hu := hp.uncontestedCode
  have hnil : ∀ l, passesAll d [] l = true := fun _ => rfl
  have hone : [c] <+: c :: cs := ⟨cs, rfl⟩
  have hr := Lexer.solid_rule d previous c cs
  rw [h] at hr
  generalize hg : (Except.ok (tok, n) : Lexer.Reading) = r at hr
  cases hr with
  | lettered h' => subst hg; exact crosses_lettered h' hp
  | letter hm =>
    have hi : inert d c = true := by
      unfold Lexer.mayStartLiteral at hm
      split at hm <;> first | exact inert_of_isLetter (by decide) | cases hm
    exact crosses_word (by simpa using hi) (by simp) hg.symm hp
  | string hc => subst hc; exact crosses_literal escaping_string (hnil _) (fun _ => rfl) hg.symm hp
  | name hq =>
    rcases Lexer.identQuote?_some hq with ⟨hc, rfl⟩ | ⟨rfl, rfl, hc⟩
    · refine crosses_quotedIdent ⟨.inr hc, fun h => ?_, fun h => absurd h (by decide)⟩ hg.symm hp
      rcases hc with rfl | rfl <;> exact absurd h (by decide)
    · exact crosses_bracketed hu hc hg.symm hp
  | doubleQuoted hc hq =>
    subst hc
    have hm : d = .mysql := by cases d <;> simp_all [Lexer.identQuote?]
    subst hm
    have he : Escaping .mysql '"' (Lexer.stringBackslash .mysql != .plain) :=
      ⟨.inr (.inl rfl), fun h => absurd h (by decide), fun _ => .inr ⟨rfl, rfl⟩⟩
    exact crosses_literal he (hnil _) (fun _ => rfl) hg.symm hp
  | number hc => exact crosses_number hd hc hg.symm hp
  | hash hc =>
    subst hc
    have hm : d ≠ .mysql := by rintro rfl; simp [Lexer.blank?] at hb
    exact crosses_hash hd hm hg.symm hp
  | geometric hc => exact absurd hc hd
  | atSign hc => subst hc; exact crosses_atSign hd hg.symm hp
  | question _ hc => exact absurd hc hd
  | placeholder hc => subst hc; cases hg; exact crosses_question hp
  | slash hc => subst hc; exact crosses_slash hb hg.symm hp
  | percent hc =>
    subst hc
    exact crosses_plain ⟨cs, rfl⟩ (by decide) (fun x hx => inert_of_mysql (by simp at hx; subst hx; rfl)) hg.symm hp
  | fixed ho =>
    cases hg
    obtain ⟨hmem, hs⟩ := operatorIn?_some ho
    obtain ⟨hne, hi⟩ := fixedOperators_inert _ hmem
    rw [← String.length_toList]
    exact crosses_inert hs hne (fun x hx => inert_of_mysql (hi x hx)) rfl hp
  | joinable hc ho =>
    obtain ⟨hmem, hs⟩ := operatorIn?_some ho
    obtain ⟨rfl, rfl⟩ := operator_ok hd hg.symm
    refine crosses_openOperator hmem hs (fun h => absurd h hc) (fun h => ?_) rfl hp
    subst h
    exact head_ne_of_minus hb hu
  | word hi =>
    have hi : inert d c = true := inert_of_isIdentPart (by cases d <;> simp_all [Lexer.isIdentPart])
    exact crosses_word (by simpa using hi) (by simp) hg.symm hp
  | dollar hc => subst hc; exact crosses_dollar hg.symm hp
  | blank hbare => cases hg; exact crosses_inert hone (by simp) (by simpa using inert_of_bare hd hbare hu) rfl hp
  | other hbare => cases hg; exact crosses_inert hone (by simp) (by simpa using inert_of_bare hd hbare hu) rfl hp

/-- A token takes the scanner from code to code, and a `?` is recorded in it if it is a marker that begins with one. -/
theorem crosses_nextToken (hd : d ≠ .postgresql) {previous : Option Token}
    (h : Lexer.nextToken d previous c cs = .ok (tok, n)) (hp : Plain d ⟨.code, p⟩ (c :: cs)) :
    Crosses d p (c :: cs) tok n := by
  unfold Lexer.nextToken at h
  split at h
  · rename_i count hb
    cases h
    exact crosses_blank hd hb hp
  · cases h
  · rename_i hb
    exact crosses_solid hd hb h hp

end Tokens

end SqlTemplate.Template
