/-
The pieces of the lexer, one equation for each way that a text can go on: in quotes, in comments, in an
escaped literal. What reads a text from here on cites these and leaves the definitions closed.
-/
import SqlTemplate.Token.Lexer
import Mathlib.Data.List.Basic
import Mathlib.Data.List.TakeWhile

namespace SqlTemplate.Lexer

/-! ## Quoted text -/

section Quoted

variable {quote c : Char} {mode : Backslash}

theorem quotedBody_closing {cs : List Char} (h : cs.head? ≠ some quote) :
    quotedBody quote mode (quote :: cs) = some ([], 1) := by
  cases cs with
  | nil => simp [quotedBody]
  | cons q rest => simp at h; simp [quotedBody, h]

theorem quotedBody_doubled (cs : List Char) :
    quotedBody quote mode (quote :: quote :: cs) = (quotedBody quote mode cs).map (quotedBody.push [quote] 2) := by
  simp [quotedBody]

theorem quotedBody_char (cs : List Char) (h : c ≠ quote) (hb : mode = .plain ∨ c ≠ '\\') :
    quotedBody quote mode (c :: cs) = (quotedBody quote mode cs).map (quotedBody.push [c] 1) := by
  have hesc : (mode != .plain && c == '\\') = false := by rcases hb with rfl | hb <;> simp [*]
  rw [quotedBody.eq_def]
  simp only
  rw [if_neg (by simpa using h), if_neg (by simp [hesc])]

/-- What a backslash and the character `e` mean where a backslash escapes. -/
def escapedPair (mode : Backslash) (e : Char) : List Char :=
  if mode == .escapesButWildcards && (e == '%' || e == '_') then ['\\', e] else [unescape e]

theorem quotedBody_escape (e : Char) (cs : List Char) (h : '\\' ≠ quote) (hm : mode ≠ .plain) :
    quotedBody quote mode ('\\' :: e :: cs) = (quotedBody quote mode cs).map (quotedBody.push (escapedPair mode e) 2) := by
  rw [quotedBody, if_neg (by simpa using h), if_pos (by simp [hm])]
  rfl

theorem quotedBody_backslash_nil (h : '\\' ≠ quote) : quotedBody quote mode ['\\'] = none := by
  rw [quotedBody, if_neg (by simpa using h)]
  simp [quotedBody]

end Quoted

/-- The texts that are quoted up to their closing `quote`, with the number of characters they and that quote take. A
doubled quote goes on; where a backslash escapes, it takes a character along, and the digits of its code. -/
inductive Quoted (quote : Char) (escapes : Bool) : List Char → Nat → Prop
  | closing {cs : List Char} : cs.head? ≠ some quote → Quoted quote escapes (quote :: cs) 1
  | doubled {cs : List Char} {n : Nat} : Quoted quote escapes cs n → Quoted quote escapes (quote :: quote :: cs) (n + 2)
  | escape {e : Char} {code cs : List Char} {n : Nat} : escapes = true → (∀ c ∈ code, Text.isHexDigit c ∨ c = '+') →
      Quoted quote escapes cs n → Quoted quote escapes ('\\' :: e :: code ++ cs) (n + code.length + 2)
  | char {c : Char} {cs : List Char} {n : Nat} : c ≠ quote → (escapes = true → c ≠ '\\') → Quoted quote escapes cs n →
      Quoted quote escapes (c :: cs) (n + 1)

theorem quoted_of_quotedBody {quote : Char} {mode : Backslash} (hq : '\\' ≠ quote) {cs body : List Char} {n : Nat}
    (h : quotedBody quote mode cs = some (body, n)) : Quoted quote (mode != .plain) cs n := by
  induction hl : cs.length using Nat.strong_induction_on generalizing cs body n with
  | _ l ih =>
    subst hl
    cases cs with
    | nil => cases h
    | cons c cs =>
      by_cases hc : c = quote
      · subst hc
        by_cases hd : cs.head? = some c
        · obtain ⟨rest, rfl⟩ := List.head?_eq_some_iff.1 hd
          rw [quotedBody_doubled] at h
          obtain ⟨⟨body', m⟩, hr, he⟩ := Option.map_eq_some_iff.1 h
          cases he
          exact .doubled (ih _ (by simp only [List.length_cons]; omega) hr rfl)
        · rw [quotedBody_closing hd] at h
          cases h
          exact .closing hd
      · by_cases hb : mode = .plain ∨ c ≠ '\\'
        · rw [quotedBody_char cs hc hb] at h
          obtain ⟨⟨body', m⟩, hr, he⟩ := Option.map_eq_some_iff.1 h
          cases he
          refine .char hc (fun hm => ?_) (ih _ (by simp) hr rfl)
          rcases hb with rfl | hb
          · simp at hm
          · exact hb
        · push Not at hb
          obtain ⟨hm, rfl⟩ := hb
          cases cs with
          | nil => rw [quotedBody_backslash_nil hq] at h; cases h
          | cons e cs =>
            rw [quotedBody_escape e cs hq hm] at h
            obtain ⟨⟨body', m⟩, hr, he⟩ := Option.map_eq_some_iff.1 h
            cases he
            have hr := ih _ (by simp only [List.length_cons]; omega) hr rfl
            exact @Quoted.escape quote _ e [] cs m (by simpa using hm) (by simp) hr

theorem Quoted.le_length {quote : Char} {escapes : Bool} {cs : List Char} {n : Nat} (h : Quoted quote escapes cs n) :
    n ≤ cs.length := by
  induction h with
  | closing => simp
  | doubled _ ih => simpa using ih
  | escape _ _ _ ih => simp only [List.length_cons, List.length_append]; omega
  | char _ _ _ ih => simpa using ih

/-- A backslash that is not there escapes nothing. -/
theorem Quoted.escapes_of_not_mem {quote : Char} {cs body : List Char} {n : Nat} (hq : '\\' ≠ quote)
    (h : quotedBody quote .plain cs = some (body, n)) (hb : '\\' ∉ body) : Quoted quote true cs n := by
  induction hl : cs.length using Nat.strong_induction_on generalizing cs body n with
  | _ l ih =>
    subst hl
    cases cs with
    | nil => cases h
    | cons c cs =>
      by_cases hc : c = quote
      · subst hc
        by_cases hd : cs.head? = some c
        · obtain ⟨rest, rfl⟩ := List.head?_eq_some_iff.1 hd
          rw [quotedBody_doubled] at h
          obtain ⟨⟨body', m⟩, hr, he⟩ := Option.map_eq_some_iff.1 h
          cases he
          exact .doubled (ih _ (by simp only [List.length_cons]; omega) hr (fun hm => hb (List.mem_append_right _ hm)) rfl)
        · rw [quotedBody_closing hd] at h
          cases h
          exact .closing hd
      · rw [quotedBody_char cs hc (.inl rfl)] at h
        obtain ⟨⟨body', m⟩, hr, he⟩ := Option.map_eq_some_iff.1 h
        cases he
        refine .char hc (fun _ hcb => hb ?_) (ih _ (by simp) hr (fun hm => hb (List.mem_append_right _ hm)) rfl)
        exact List.mem_append_left _ (by simp [hcb])

/-! ## Escaped literals -/

theorem codeChar?_some {count : Nat} {cs : List Char} {m : Char} (h : codeChar? count cs = some m) :
    count ≤ cs.length ∧ ∀ c ∈ cs.take count, Text.isHexDigit c ∨ c = '+' := by
  unfold codeChar? at h
  split at h
  · rename_i n hn
    split_ifs at h with hc
    simp only [Bool.and_eq_true, decide_eq_true_eq] at hc
    refine ⟨hc.1.1, fun c hm => ?_⟩
    unfold hexNumber? at hn
    simp only at hn
    split_ifs at hn with hd
    simp only [Bool.and_eq_true, List.all_eq_true] at hd
    split at hd
    · rename_i rest ht
      rw [ht] at hm
      rcases List.mem_cons.1 hm with rfl | hm
      · exact .inr rfl
      · exact .inl (hd.2 c hm)
    · exact .inl (hd.2 c hm)
  · cases h

theorem isHexDigit_of_isOctal {c : Char} (h : isOctal c = true) : Text.isHexDigit c = true := by
  simp only [isOctal, Bool.and_eq_true, decide_eq_true_eq] at h
  have : c.isDigit = true := by
    simp only [Char.isDigit, Bool.and_eq_true, decide_eq_true_eq]
    exact ⟨h.1, Nat.le_trans h.2 (by decide)⟩
  simp [Text.isHexDigit, this]

/-- An escape takes one character, and after it digits of its code only. -/
theorem escapeMeaning?_some {cs : List Char} {m : Char} {count : Nat} (h : escapeMeaning? cs = some (m, count)) :
    ∃ e code rest, cs = e :: code ++ rest ∧ count = code.length + 1 ∧ ∀ c ∈ code, Text.isHexDigit c ∨ c = '+' := by
  -- the letters that stand for one character take nothing along
  have alone : ∀ {e : Char} {cs : List Char}, ∃ x code rest, e :: cs = x :: code ++ rest ∧ 1 = code.length + 1 ∧
      ∀ c ∈ code, Text.isHexDigit c ∨ c = '+' := fun {e cs} => ⟨e, [], cs, rfl, rfl, by simp⟩
  have coded : ∀ {e : Char} {cs : List Char} {k : Nat} {m' : Char}, codeChar? k cs = some m' →
      ∃ x code rest, e :: cs = x :: code ++ rest ∧ k + 1 = code.length + 1 ∧
        ∀ c ∈ code, Text.isHexDigit c ∨ c = '+' := by
    intro e cs k m' hk
    obtain ⟨hl, hc⟩ := codeChar?_some hk
    exact ⟨e, cs.take k, cs.drop k, by simp, by simp [hl], hc⟩
  have digits : ∀ (p : Char → Bool) {e : Char} {cs : List Char}, (∀ c, p c = true → Text.isHexDigit c = true) →
      ∃ x code rest, e :: cs = x :: code ++ rest ∧ ((cs.take 2).takeWhile p).length + 1 = code.length + 1 ∧
        ∀ c ∈ code, Text.isHexDigit c ∨ c = '+' := by
    intro p e cs hp
    obtain ⟨rest, hr⟩ := (List.takeWhile_prefix p).trans (List.take_prefix 2 cs)
    exact ⟨e, (cs.take 2).takeWhile p, rest, by rw [List.cons_append, hr], rfl,
      fun c hc => .inl (hp c (List.mem_takeWhile_imp hc))⟩
  unfold escapeMeaning? at h
  split at h
  · cases h
  · cases h; exact alone
  · cases h; exact alone
  · cases h; exact alone
  · cases h; exact alone
  · cases h; exact alone
  · obtain ⟨m', hk, he⟩ := Option.map_eq_some_iff.1 h
    cases he; exact coded hk
  · obtain ⟨m', hk, he⟩ := Option.map_eq_some_iff.1 h
    cases he; exact coded hk
  · simp only at h
    split_ifs at h
    · cases h; exact alone
    · obtain ⟨m', -, he⟩ := Option.map_eq_some_iff.1 h
      cases he; exact digits _ fun _ hc => hc
  · split_ifs at h
    · obtain ⟨m', -, he⟩ := Option.map_eq_some_iff.1 h
      cases he; exact digits _ fun _ hc => isHexDigit_of_isOctal hc
    · cases h; exact alone

theorem escapedBody_skip {k : Nat} {cs body : List Char} {n : Nat} (h : escapedBody k cs = some (body, n)) :
    ∃ m, n = m + k ∧ escapedBody 0 (cs.drop k) = some (body, m) := by
  induction k generalizing cs n with
  | zero => exact ⟨n, rfl, h⟩
  | succ k ih =>
    cases cs with
    | nil => cases h
    | cons c cs =>
      obtain ⟨⟨body', m⟩, hr, he⟩ := Option.map_eq_some_iff.1 h
      cases he
      obtain ⟨m', rfl, hm'⟩ := ih hr
      exact ⟨m', rfl, hm'⟩

theorem quoted_of_escapedBody {cs body : List Char} {n : Nat} (h : escapedBody 0 cs = some (body, n)) :
    Quoted '\x27' true cs n := by
  induction hl : cs.length using Nat.strong_induction_on generalizing cs body n with
  | _ l ih =>
    subst hl
    cases cs with
    | nil => cases h
    | cons c cs =>
      rw [escapedBody.eq_def] at h
      simp only [beq_iff_eq] at h
      split_ifs at h with hq hb
      · subst hq
        split at h
        · rename_i q rest
          split_ifs at h with hd
          · subst hd
            obtain ⟨⟨body', m⟩, hr, he⟩ := Option.map_eq_some_iff.1 h
            cases he
            obtain ⟨m', rfl, hm'⟩ := escapedBody_skip hr
            exact .doubled (ih _ (by simp only [List.length_cons]; omega) hm' rfl)
          · cases h
            exact .closing (by simpa using hd)
        · cases h
          exact .closing (by simp)
      · subst hb
        split at h
        · rename_i m count he
          obtain ⟨⟨body', k⟩, hr, he'⟩ := Option.map_eq_some_iff.1 h
          cases he'
          obtain ⟨e, code, rest, rfl, rfl, hcode⟩ := escapeMeaning?_some he
          obtain ⟨k', rfl, hk'⟩ := escapedBody_skip hr
          have hd : (e :: code ++ rest).drop (code.length + 1) = rest := by simp
          rw [hd] at hk'
          exact .escape rfl hcode (ih _ (by simp only [List.length_append, List.length_cons]; omega) hk' rfl)
        · cases h
      · obtain ⟨⟨body', m⟩, hr, he⟩ := Option.map_eq_some_iff.1 h
        cases he
        exact .char hq (fun _ => hb) (ih _ (by simp) hr rfl)

theorem unicodeChar_ok {count : Nat} {cs : List Char} {m : Char} (h : unicodeChar count cs = .ok m) :
    ∃ code rest, cs = code ++ rest ∧ code.length = count ∧ ∀ c ∈ code, Text.isHexDigit c ∨ c = '+' := by
  unfold unicodeChar at h
  simp only [beq_iff_eq] at h
  split_ifs at h with hl
  · obtain ⟨rest, hr⟩ := (List.takeWhile_prefix Text.isHexDigit).trans (List.take_prefix count cs)
    exact ⟨_, rest, hr.symm, hl, fun c hc => .inl (List.mem_takeWhile_imp hc)⟩
  · split at h <;> cases h

theorem unicodeBody_skip {k offset : Nat} {cs : List Char} {r : List Char × Nat}
    (h : unicodeBody k offset cs = .ok r) : unicodeBody 0 (offset + k) (cs.drop k) = .ok r := by
  induction k generalizing cs offset with
  | zero => exact h
  | succ k ih =>
    cases cs with
    | nil => cases h
    | cons c cs =>
      have := ih h
      rwa [Nat.add_right_comm] at this

theorem unicodeBody_push {c : Char} {r : Except (String × Nat) (List Char × Nat)} {body : List Char} {n : Nat}
    (h : unicodeBody.push c r = .ok (body, n)) : ∃ body', r = .ok (body', n) := by
  cases r with
  | error e => cases h
  | ok r => cases h; exact ⟨_, rfl⟩

theorem quoted_of_unicodeBody {offset : Nat} {cs body : List Char} {n : Nat}
    (h : unicodeBody 0 offset cs = .ok (body, n)) : ∃ m, n = offset + m ∧ Quoted '\x27' true cs m := by
  induction hl : cs.length using Nat.strong_induction_on generalizing cs body n offset with
  | _ l ih =>
    subst hl
    cases cs with
    | nil => cases h
    | cons c cs =>
      rw [unicodeBody.eq_def] at h
      simp only [beq_iff_eq] at h
      split_ifs at h with hq hd hb
      · subst hq
        obtain ⟨rest, rfl⟩ := List.head?_eq_some_iff.1 hd
        obtain ⟨body', hr⟩ := unicodeBody_push h
        obtain ⟨m, rfl, hm⟩ := ih _ (by simp only [List.length_cons, List.drop_succ_cons, List.drop_zero]; omega) (unicodeBody_skip hr) rfl
        exact ⟨m + 2, by omega, .doubled hm⟩
      · subst hq
        cases h
        exact ⟨1, rfl, .closing hd⟩
      · subst hb
        split at h
        · rename_i rest
          obtain ⟨body', hr⟩ := unicodeBody_push h
          obtain ⟨m, rfl, hm⟩ := ih _ (by simp only [List.length_cons, List.drop_succ_cons, List.drop_zero]; omega) (unicodeBody_skip hr) rfl
          exact ⟨m + 2, by omega, @Quoted.escape _ _ _ [] _ m rfl (by simp) hm⟩
        · rename_i rest
          split at h
          · rename_i meant hc
            obtain ⟨code, rest', rfl, hl, hcode⟩ := unicodeChar_ok hc
            obtain ⟨body', hr⟩ := unicodeBody_push h
            have hd : ('+' :: (code ++ rest')).drop 7 = rest' := by simp [← hl]
            have hr := unicodeBody_skip hr
            rw [hd] at hr
            obtain ⟨m, rfl, hm⟩ := ih _ (by simp only [List.length_cons, List.length_append]; omega) hr rfl
            exact ⟨m + code.length + 2, by omega, .escape rfl hcode hm⟩
          · cases h
        · split at h
          · rename_i meant hc
            obtain ⟨code, rest', rfl, hl, hcode⟩ := unicodeChar_ok hc
            obtain ⟨body', hr⟩ := unicodeBody_push h
            obtain ⟨e, code, rfl⟩ := List.exists_cons_of_length_eq_add_one hl
            have hd : (e :: code ++ rest').drop 4 = rest' := by simp [← hl]
            have hr := unicodeBody_skip hr
            rw [hd] at hr
            obtain ⟨m, rfl, hm⟩ := ih _ (by simp only [List.length_cons, List.length_append]; omega) hr rfl
            simp only [List.length_cons] at hl
            exact ⟨m + code.length + 2, by omega,
              .escape rfl (fun c hc => hcode c (List.mem_cons_of_mem _ hc)) hm⟩
          · cases h
      · obtain ⟨body', hr⟩ := unicodeBody_push h
        obtain ⟨m, rfl, hm⟩ := ih _ (by simp) hr rfl
        exact ⟨m + 1, by omega, .char hq (fun _ => hb) hm⟩

/-! ## Comments -/

section Comments

variable {d : Dialect}

theorem lineComment_newline (cs : List Char) : lineComment d ('\n' :: cs) = 1 := by
  simp [lineComment]

theorem lineComment_char {c : Char} (cs : List Char) (hd : d ≠ .postgresql) (hc : c ≠ '\n') :
    lineComment d (c :: cs) = lineComment d cs + 1 := by
  simp only [lineComment]
  rw [List.takeWhile_cons_of_pos (by simp [hc, hd])]
  simp only [List.length_cons]
  split_ifs <;> omega

theorem commentBody_closing (cs : List Char) (nests : Bool) : commentBody nests 1 ('*' :: '/' :: cs) = some 2 := by
  simp [commentBody]

theorem commentBody_char {nests : Bool} {depth : Nat} {c : Char} {cs : List Char}
    (ho : ¬ (nests = true ∧ c = '/' ∧ cs.head? = some '*')) (hc : ¬ (c = '*' ∧ cs.head? = some '/')) :
    commentBody nests depth (c :: cs) = (commentBody nests depth cs).map (· + 1) := by
  rw [commentBody.eq_def]
  simp only
  rw [if_neg (by simpa [and_assoc] using ho), if_neg (by simpa using hc)]

end Comments

/-! ## Which rule reads a token -/

/-- Characters that begin no literal, name, number or word and no operator of their own. -/
structure Bare (d : Dialect) (c : Char) (cs : List Char) : Prop where
  quote : c ≠ '\x27' ∧ c ≠ '"' ∧ identQuote? d c = none
  marks : c ≠ '#' ∧ c ≠ '@' ∧ c ≠ '?' ∧ c ≠ '/'
  operator : operatorIn? openOperators (c :: cs) = none

theorem identQuote?_some {d : Dialect} {c closing : Char} (h : identQuote? d c = some closing) :
    (c = '"' ∨ c = '\x60') ∧ closing = c ∨ c = '[' ∧ closing = ']' ∧ (d = .sqlite ∨ d = .mssql) := by
  unfold identQuote? at h
  simp only at h
  split_ifs at h with h1 h2
  · cases h
    obtain rfl := beq_iff_eq.1 h2
    cases d <;> simp_all
  · cases h
    cases d <;> simp_all

/-- The rules for tokens that are no blanks: what the text `c :: cs` begins with, and how it is read. -/
inductive Rule (d : Dialect) (previous : Option Token) (c : Char) (cs : List Char) : Reading → Prop
  | lettered {r : Reading} : lettered d c cs = some r → Rule d previous c cs r
  | letter : mayStartLiteral d c = true → lettered d c cs = none → Rule d previous c cs (word d [c] cs)
  | string : c = '\x27' → Rule d previous c cs (literal .string '\x27' (stringBackslash d) 0 cs)
  | name {closing : Char} : identQuote? d c = some closing → Rule d previous c cs (quotedIdent c closing cs)
  | doubleQuoted : c = '"' → identQuote? d '"' = none →
      Rule d previous c cs (literal .doubleQuoted '"' (stringBackslash d) 0 cs)
  | number : c.isDigit = true ∨ c = '.' → Rule d previous c cs (number d previous (c :: cs))
  | hash : c = '#' → Rule d previous c cs (hash d ('#' :: cs))
  | geometric {r : Reading} : d = .postgresql → geometric? d (c :: cs) = some r → Rule d previous c cs r
  | atSign : c = '@' → Rule d previous c cs (atSign d ('@' :: cs))
  | question : c = '?' → d = .postgresql → Rule d previous c cs (question ('?' :: cs))
  | placeholder : c = '?' → d ≠ .postgresql →
      Rule d previous c cs (.ok (.placeholder (String.ofList ('?' :: cs.takeWhile Text.isNumeral)),
        (cs.takeWhile Text.isNumeral).length + 1))
  | slash : c = '/' →
      Rule d previous c cs (if d == .generic && cs.head? == some '/' then plain "//" else plain "/")
  | percent : c = '%' → Rule d previous c cs (plain "%")
  | fixed {e : String × String} : operatorIn? fixedOperators (c :: cs) = some e →
      Rule d previous c cs (.ok (.symbol e.2, e.1.length))
  | joinable {e : String × String} : c ≠ '#' → operatorIn? openOperators (c :: cs) = some e →
      Rule d previous c cs (operator d e.1 e.2 (c :: cs))
  | word : isIdentStart d c = true → Rule d previous c cs (word d [c] cs)
  | dollar : c = '$' → Rule d previous c cs (dollar d cs)
  | blank : Bare d c cs → Text.isBlank c = true → Rule d previous c cs (.ok (.blank, 1))
  | other : Bare d c cs → Rule d previous c cs (.ok (.other c, 1))

theorem standsAlone_cons {c : Char} {cs : List Char} (h : standsAlone (c :: cs) = true) (hc : c ≠ '#') : c = '%' := by
  unfold standsAlone at h
  split at h
  · rename_i heq; exact (List.cons.inj heq).1
  · rename_i heq; exact absurd (List.cons.inj heq).1 hc
  · cases h

theorem solid_rule (d : Dialect) (previous : Option Token) (c : Char) (cs : List Char) :
    Rule d previous c cs (solid d previous c cs) := by
  unfold solid
  by_cases hm : mayStartLiteral d c = true
  · rw [if_pos hm, if_pos hm]
    cases hl : Lexer.lettered d c cs with
    | some r => exact .lettered hl
    | none => exact .letter hm hl
  rw [if_neg hm, if_neg hm]
  by_cases h1 : (c == '\x27') = true
  · rw [if_pos h1]
    obtain rfl := beq_iff_eq.1 h1
    exact .string rfl
  rw [if_neg h1]
  cases hq : identQuote? d c with
  | some closing => exact .name hq
  | none =>
    simp only
    by_cases h2 : (c == '"') = true
    · rw [if_pos h2]
      obtain rfl := beq_iff_eq.1 h2
      exact .doubleQuoted rfl hq
    rw [if_neg h2]
    by_cases h3 : (c.isDigit || c == '.') = true
    · rw [if_pos h3]
      exact .number (by simpa using h3)
    rw [if_neg h3]
    by_cases h4 : (c == '#') = true
    · rw [if_pos h4]
      obtain rfl := beq_iff_eq.1 h4
      exact .hash rfl
    rw [if_neg h4]
    cases hg : (if d == .postgresql then geometric? d (c :: cs) else none) with
    | some r =>
      split_ifs at hg with hd
      exact .geometric (beq_iff_eq.1 hd) hg
    | none =>
      simp only
      by_cases h5 : (c == '@') = true
      · rw [if_pos h5]
        obtain rfl := beq_iff_eq.1 h5
        exact .atSign rfl
      rw [if_neg h5]
      by_cases h6 : (c == '?') = true
      · rw [if_pos h6]
        obtain rfl := beq_iff_eq.1 h6
        split_ifs with hd
        · exact .question rfl (beq_iff_eq.1 hd)
        · exact .placeholder rfl (by simpa using hd)
      rw [if_neg h6]
      by_cases h7 : (c == '/') = true
      · rw [if_pos h7]
        exact .slash (beq_iff_eq.1 h7)
      rw [if_neg h7]
      simp only [beq_iff_eq] at h1 h2 h4 h5 h6 h7
      by_cases h8 : standsAlone (c :: cs) = true
      · rw [if_pos h8]
        obtain rfl := standsAlone_cons h8 h4
        exact .percent rfl
      rw [if_neg h8]
      cases hf : operatorIn? fixedOperators (c :: cs) with
      | some e => exact .fixed hf
      | none =>
        simp only
        cases ho : operatorIn? openOperators (c :: cs) with
        | some e => exact .joinable h4 ho
        | none =>
          simp only
          have hbare : Bare d c cs := ⟨⟨h1, h2, hq⟩, ⟨h4, h5, h6, h7⟩, ho⟩
          split_ifs with h9 h10 h11
          · exact .word h9
          · exact .dollar (beq_iff_eq.1 h10)
          · exact .blank hbare h11
          · exact .other hbare

/-! ## Runs -/

/-- The place of the character at an offset of `cs`, the text from `l` on. -/
def locate (l : Location) (cs : List Char) (i : Nat) : Location := (cs.take i).foldl advance l

theorem locate_add (l : Location) (cs : List Char) (i j : Nat) :
    locate l cs (i + j) = locate (locate l cs i) (cs.drop i) j := by
  rw [locate, List.take_add, List.foldl_append]; rfl

theorem run_skip (d : Dialect) (previous : Option Token) (l : Location) (k : Nat) (cs : List Char) :
    run d previous k l cs = run d previous 0 (locate l cs k) (cs.drop k) := by
  induction k generalizing l cs with
  | zero => rfl
  | succ k ih =>
    cases cs with
    | nil => rfl
    | cons c cs => rw [run, ih]; rfl

/-- A run begins with a token and goes on after it. -/
theorem run_cons {d : Dialect} {previous : Option Token} {l : Location} {c : Char} {cs : List Char} {tokens : List Lexeme}
    (h : run d previous 0 l (c :: cs) = .ok tokens) :
    ∃ tok n rest, nextToken d previous c cs = .ok (tok, n) ∧ tokens = ⟨tok, l⟩ :: rest ∧
      (0 < n → run d (some tok) 0 (locate l (c :: cs) n) ((c :: cs).drop n) = .ok rest) := by
  rw [run] at h
  split at h
  · cases h
  · rename_i tok n hn
    split at h
    · cases h
    · rename_i rest hr
      cases h
      refine ⟨tok, n, rest, hn, rfl, fun hpos => ?_⟩
      obtain ⟨k, rfl⟩ := Nat.exists_eq_succ_of_ne_zero (Nat.pos_iff_ne_zero.1 hpos)
      rw [run_skip] at hr
      exact hr

end SqlTemplate.Lexer
