/-
How printed tokens are read: a name, a keyword, a number, a literal, a placeholder or an operator that
stands before a delimiter is one token, and the period between two names is one as well.
-/
import SqlTemplate.Proofs.Token.Reads
import SqlTemplate.Tree.Value

namespace SqlTemplate.Lexer

/-! ## Words -/

/-- The characters of plain words after the first, which is a letter. -/
def isWordChar (c : Char) : Bool := c.isAlphanum || c == '_'

/-- What follows a word neither goes on with it nor makes it the start of a literal. -/
def WordEnd (d : Dialect) (rest : List Char) : Prop :=
  ∀ b ∈ rest.head?, isIdentPart d b = false ∧ b ≠ '\x27' ∧ b ≠ '"' ∧ b ≠ '&' ∧ b ≠ '\x60'

theorem Delimited.wordEnd {d : Dialect} {rest : List Char} (h : Delimited rest) : WordEnd d rest := by
  intro b hb
  have hd := h b hb
  unfold delimiter? at hd
  split at hd
  · cases d <;> decide
  · cases d <;> decide
  · cases d <;> decide
  · cases d <;> decide
  · cases hd

theorem wordEnd_period (d : Dialect) (rest : List Char) : WordEnd d ('.' :: rest) := by
  intro b hb
  cases hb
  cases d <;> decide

theorem isAlpha_iff {c : Char} :
    c.isAlpha = true ↔ (c.val ≥ 'A'.val ∧ c.val ≤ 'Z'.val) ∨ (c.val ≥ 'a'.val ∧ c.val ≤ 'z'.val) := by
  have hupper : c.isUpper = true ↔ c.val ≥ 'A'.val ∧ c.val ≤ 'Z'.val := decide_eq_true_iff
  have hlower : c.isLower = true ↔ c.val ≥ 'a'.val ∧ c.val ≤ 'z'.val := by
    show (decide (c.val ≥ 'a'.val) && decide (c.val ≤ 'z'.val)) = true ↔ _
    rw [Bool.and_eq_true, decide_eq_true_iff, decide_eq_true_iff]
  show (c.isUpper || c.isLower) = true ↔ _
  rw [Bool.or_eq_true, hupper, hlower]

theorem isIdentStart_of_isAlpha {d : Dialect} {c : Char} (h : c.isAlpha = true) : isIdentStart d c = true := by
  have ha : Text.isAscii c = true := by
    rw [isAlpha_iff] at h
    simp only [Text.isAscii, decide_eq_true_eq]
    rcases h with ⟨h1, h2⟩ | ⟨h1, h2⟩
    · exact Nat.lt_of_le_of_lt h2 (by decide)
    · exact Nat.lt_of_le_of_lt h2 (by decide)
  have hl : Text.isLetter c = true := by rw [Text.isLetter, if_pos ha, h]
  cases d <;> simp [isIdentStart, hl, h]

theorem isDigit_of_isAlpha {c : Char} (h : c.isAlpha = true) : c.isDigit = false := by
  rw [Bool.eq_false_iff]
  intro hd
  rw [isAlpha_iff] at h
  simp only [Char.isDigit, decide_eq_true_eq, Bool.and_eq_true, ge_iff_le, UInt32.le_iff_toNat_le] at h hd
  have : 'A'.val.toNat = 65 := rfl
  have : 'a'.val.toNat = 97 := rfl
  have : '9'.val.toNat = 57 := rfl
  omega

theorem isIdentPart_of_isWordChar {d : Dialect} {c : Char} (h : isWordChar c = true) : isIdentPart d c = true := by
  simp only [isWordChar, Char.isAlphanum, Bool.or_eq_true, beq_iff_eq] at h
  rcases h with (h | h) | rfl
  · have := isIdentStart_of_isAlpha (d := d) h
    cases d <;> simp [isIdentPart, this]
  · cases d <;> simp [isIdentPart, h]
  · cases d <;> decide

theorem operatorIn?_eq_none (table : List (String × String)) {c : Char} (cs : List Char)
    (h : (table.all fun e => e.1.toList.head?.any fun k => !k.isAlpha) = true) (hc : c.isAlpha = true) :
    operatorIn? table (c :: cs) = none := by
  rw [operatorIn?, List.find?_eq_none]
  intro e he hp
  have hk := List.all_eq_true.1 h e he
  cases hl : e.1.toList with
  | nil => rw [hl] at hk; cases hk
  | cons k ks =>
    rw [hl] at hk hp
    simp only [List.head?_cons, Option.any_some, Bool.not_eq_true'] at hk
    simp only [List.isPrefixOf, Bool.and_eq_true, beq_iff_eq] at hp
    rw [hp.1, hc] at hk
    cases hk

theorem geometric?_eq_none {c : Char} (d : Dialect) (cs : List Char) (hc : c.isAlpha = true) : geometric? d (c :: cs) = none := by
  have hstarts : (operatorStarts.find? fun start => start.toList.isPrefixOf (c :: cs)) = none := by
    have h := operatorIn?_eq_none (operatorStarts.map fun start => (start, start)) cs (by decide) hc
    rwa [operatorIn?, List.find?_map, Option.map_eq_none_iff] at h
  unfold geometric?
  split
  · rename_i he; rw [(List.cons.inj he).1] at hc; exact absurd hc (by decide)
  · rename_i he; rw [(List.cons.inj he).1] at hc; exact absurd hc (by decide)
  · rename_i he; rw [(List.cons.inj he).1] at hc; exact absurd hc (by decide)
  · rw [operatorIn?_eq_none _ cs (by decide) hc]
    simp only
    rw [hstarts]
    rfl

theorem takeWhile_wordChars {d : Dialect} {cs rest : List Char} (h : ∀ c ∈ cs, isWordChar c = true) (hr : WordEnd d rest) :
    (cs ++ rest).takeWhile (isIdentPart d) = cs := by
  rw [List.takeWhile_append_of_pos fun c hc => isIdentPart_of_isWordChar (h c hc)]
  cases rest with
  | nil => simp
  | cons b rest => rw [List.takeWhile_cons_of_neg (by simp [(hr b rfl).1]), List.append_nil]

theorem lettered_eq_none {d : Dialect} {c : Char} {cs : List Char}
    (h : ∀ b ∈ cs.head?, b ≠ '\x27' ∧ b ≠ '"' ∧ b ≠ '&') : lettered d c cs = none := by
  cases cs with
  | nil => rfl
  | cons b cs =>
    obtain ⟨h1, h2, h3⟩ := h b rfl
    unfold lettered
    split
    · rename_i he; cases he; exact absurd rfl h1
    · rename_i he; cases he; exact absurd rfl h2
    · rename_i he; cases he; exact absurd rfl h3
    · rfl

/-- A plain word is read to its end. -/
theorem beq_eq_false_of_isAlpha {c k : Char} (hc : c.isAlpha = true) (hk : k.isAlpha = false) : (c == k) = false := by
  rw [beq_eq_false_iff_ne]
  rintro rfl
  rw [hc] at hk
  cases hk

/-- A word is not the letter that makes a literal of the text after it. -/
theorem lettered_word {d : Dialect} (c : Char) {cs rest : List Char} (hcs : ∀ x ∈ cs, isWordChar x = true) (hr : WordEnd d rest) :
    lettered d c (cs ++ rest) = none := by
  apply lettered_eq_none
  intro b hb
  cases cs with
  | nil =>
    obtain ⟨-, h1, h2, h3, -⟩ := hr b hb
    exact ⟨h1, h2, h3⟩
  | cons x xs =>
    cases hb
    have hword := hcs b List.mem_cons_self
    refine ⟨?_, ?_, ?_⟩ <;> rintro rfl <;> exact absurd hword (by decide)

theorem standsAlone_of_isAlpha {c : Char} (hc : c.isAlpha = true) (cs : List Char) : standsAlone (c :: cs) = false := by
  unfold standsAlone
  split
  · rename_i he
    rw [(List.cons.inj he).1] at hc
    exact absurd hc (by decide)
  · rename_i he
    rw [(List.cons.inj he).1] at hc
    exact absurd hc (by decide)
  · rfl

theorem nextToken_word {d : Dialect} {previous : Option Token} {c : Char} {cs rest : List Char} (hc : c.isAlpha = true)
    (hcs : ∀ x ∈ cs, isWordChar x = true) (hr : WordEnd d rest) :
    nextToken d previous c (cs ++ rest) = .ok (.plainWord (c :: cs), cs.length + 1) := by
  have hne : ∀ k : Char, k.isAlpha = false → (c == k) = false := fun _ => beq_eq_false_of_isAlpha hc
  have hword : word d [c] (cs ++ rest) = .ok (.plainWord (c :: cs), cs.length + 1) := by
    simp [word, takeCount, takeWhile_wordChars hcs hr, Nat.add_comm]
  have hblank : blank? d c (cs ++ rest) = none := by
    simp [blank?, hne]
  have hquote : identQuote? d c = none := by cases d <;> simp [identQuote?, hne]
  have hnone : (if mayStartLiteral d c then lettered d c (cs ++ rest) else none) = none := by
    rw [lettered_word c hcs hr, ite_self]
  rw [nextToken, hblank]
  show solid d previous c (cs ++ rest) = _
  unfold solid
  rw [hnone]
  by_cases hm : mayStartLiteral d c = true
  · rw [if_pos hm]
    exact hword
  · rw [if_neg hm]
    -- a letter is none of the signs that the other rules begin with
    simp only [hne '\x27' rfl, hquote, hne '"' rfl, isDigit_of_isAlpha hc, hne '.' rfl, hne '#' rfl, geometric?_eq_none d _ hc,
      ite_self, hne '@' rfl, hne '?' rfl, hne '/' rfl, standsAlone_of_isAlpha hc, operatorIn?_eq_none fixedOperators _ (by decide) hc,
      operatorIn?_eq_none openOperators _ (by decide) hc, isIdentStart_of_isAlpha hc, Bool.or_self,
      Bool.false_eq_true, if_false, if_true]
    exact hword

/-- A text that is a plain word: a letter, and letters, digits and underscores after it. -/
def isPlainWord (cs : List Char) : Bool :=
  match cs with
  | [] => false
  | c :: cs => c.isAlpha && cs.all isWordChar

theorem reads_word {d : Dialect} {cs : List Char} (h : isPlainWord cs = true) : Reads d cs [.plainWord cs] := by
  cases cs with
  | nil => cases h
  | cons c cs =>
    simp only [isPlainWord, Bool.and_eq_true, List.all_eq_true] at h
    exact reads_token fun rest hr => nextToken_word h.1 h.2 hr.wordEnd

/-! ## Operators -/

/-- A delimited text is empty or begins with one of the delimiters. -/
theorem Delimited.cases {rest : List Char} (h : Delimited rest) :
    rest = [] ∨ ∃ b cs, rest = b :: cs ∧ (b = ' ' ∨ b = ',' ∨ b = '(' ∨ b = ')') := by
  cases rest with
  | nil => exact .inl rfl
  | cons b cs =>
    refine .inr ⟨b, cs, rfl, ?_⟩
    have hd := h b rfl
    unfold delimiter? at hd
    split at hd
    · exact .inl rfl
    · exact .inr (.inl rfl)
    · exact .inr (.inr (.inl rfl))
    · exact .inr (.inr (.inr rfl))
    · cases hd

/-- Operators that are printed with blanks around them. -/
def plainOperators : List String := ["=", "<>", "<", ">", "<=", ">=", "+", "-", "*", "/", "%", "||"]

theorem reads_operator (d : Dialect) {s : String} (h : s ∈ plainOperators) : Reads d s.toList [.symbol s] := by
  simp only [plainOperators, List.mem_cons, List.not_mem_nil, or_false] at h
  have hread : ∀ c cs rest, Delimited rest → s.toList = c :: cs →
      nextToken d none c (cs ++ rest) = .ok (.symbol s, cs.length + 1) := by
    intro c cs rest hr hs
    rcases hr.cases with rfl | ⟨b, rest, rfl, rfl | rfl | rfl | rfl⟩ <;>
      rcases h with rfl | rfl | rfl | rfl | rfl | rfl | rfl | rfl | rfl | rfl | rfl | rfl <;> cases hs <;> cases d <;> rfl
  cases hs : s.toList with
  | nil => rcases h with rfl | rfl | rfl | rfl | rfl | rfl | rfl | rfl | rfl | rfl | rfl | rfl <;> cases hs
  | cons c cs => exact reads_token fun rest hr => hread c cs rest hr hs

/-! ## Quoted texts -/

/-- No quote stands after a quote or after a backslash, the first character after `previous`. -/
def isolated (quote : Char) (previous : Char) : List Char → Bool
  | [] => true
  | c :: cs => (c != quote || previous != quote && previous != '\\') && isolated quote c cs

/-- Isolated quotes are doubled one by one. -/
theorem doubleQuotes_cons {quote previous c : Char} {cs : List Char} (h : isolated quote previous (c :: cs) = true) :
    doubleQuotes quote previous (c :: cs) = (if c = quote then [c, c] else [c]) ++ doubleQuotes quote c cs := by
  simp only [isolated, Bool.and_eq_true, Bool.or_eq_true, bne_iff_ne, ne_eq] at h
  obtain ⟨h1, h2⟩ := h
  rw [doubleQuotes.eq_def]
  simp only
  by_cases hc : c = quote
  · subst hc
    have hp : ¬ previous = '\\' := by
      rcases h1 with h1 | h1
      · exact absurd rfl h1
      · exact h1.2
    cases cs with
    | nil => simp [hp, doubleQuotes]
    | cons e rest =>
      have he : ¬ e = c := by
        intro he
        subst he
        simp [isolated] at h2
      simp [hp, he]
  · simp [hc]

/-- A text whose quotes are isolated is read back from between quotes. -/
theorem quotedBody_doubleQuotes {quote : Char} {mode : Backslash} {rest : List Char} (hr : rest.head? ≠ some quote)
    {previous : Char} {cs : List Char} (hi : isolated quote previous cs = true)
    (hm : mode = .plain ∨ ∀ c ∈ cs, c ≠ '\\') :
    quotedBody quote mode (doubleQuotes quote previous cs ++ quote :: rest) =
      some (cs, (doubleQuotes quote previous cs).length + 1) := by
  induction cs generalizing previous with
  | nil =>
    rw [doubleQuotes]
    exact quotedBody_closing hr
  | cons c cs ih =>
    have h2 : isolated quote c cs = true := by
      simp only [isolated, Bool.and_eq_true] at hi
      exact hi.2
    have ih := ih h2 (hm.imp_right fun h x hx => h x (List.mem_cons_of_mem _ hx))
    rw [doubleQuotes_cons hi, List.append_assoc]
    by_cases hc : c = quote
    · subst hc
      rw [if_pos rfl]
      simp only [List.cons_append, List.nil_append]
      rw [quotedBody_doubled, ih]
      simp [quotedBody.push]
    · rw [if_neg hc, List.singleton_append, quotedBody_char _ hc (hm.imp_right fun h => h c List.mem_cons_self), ih]
      simp [quotedBody.push]

theorem head?_ne_of_delimited {rest : List Char} (h : Delimited rest) {q : Char} (hq : delimiter? q = none) :
    rest.head? ≠ some q := by
  intro he
  have := h q he
  rw [hq] at this
  cases this

theorem toList_quoteText (quote : Char) (text : String) :
    (quoteText quote text).toList = quote :: (doubleQuotes quote '\x00' text.toList ++ [quote]) := by
  simp [quoteText]

/-- A string literal is read back if its quotes are isolated and nothing in it escapes. -/
theorem reads_string {d : Dialect} {text : String} (hi : isolated '\x27' '\x00' text.toList = true)
    (hm : d = .mysql → ∀ c ∈ text.toList, c ≠ '\\') : Reads d (quoteText '\x27' text).toList [.string text] := by
  rw [toList_quoteText]
  apply reads_token
  intro rest hr
  have hmode : stringBackslash d = .plain ∨ ∀ c ∈ text.toList, c ≠ '\\' := by
    by_cases hd : d = .mysql
    · exact .inr (hm hd)
    · exact .inl (by simp [stringBackslash, hd])
  have hbody := quotedBody_doubleQuotes (head?_ne_of_delimited hr rfl) hi hmode
  have hlit : literal .string '\x27' (stringBackslash d) 0 (doubleQuotes '\x27' '\x00' text.toList ++ '\x27' :: rest) =
      .ok (.string text, (doubleQuotes '\x27' '\x00' text.toList).length + 2) := by
    rw [literal, hbody]
    simp [String.ofList_toList]
    omega
  have hn : nextToken d none '\x27' (doubleQuotes '\x27' '\x00' text.toList ++ '\x27' :: rest) =
      literal .string '\x27' (stringBackslash d) 0 (doubleQuotes '\x27' '\x00' text.toList ++ '\x27' :: rest) := by
    cases d <;> rfl
  rw [List.append_assoc, List.singleton_append, hn, hlit]
  simp

/-! ## Names -/

/-- The token of a name. -/
def identToken (i : Ident) : Token := .word ⟨i.text, i.quote, none⟩

/-- Names that are read as they are printed: words that are no keywords, and names in quotes of the dialect with no
quote next to another in them or after a backslash. -/
def isPlainIdent (d : Dialect) (i : Ident) : Bool :=
  match i.quote with
  | none => isPlainWord i.text.toList && (Keyword.ofWord? i.text.toList).isNone
  | some q => identQuote? d q == some q && isolated q '\x00' i.text.toList

/-- Characters that a printed name begins with. -/
def startsName (c : Char) : Bool := c.isAlpha || c == '"' || c == '\x60'

theorem quote_of_identQuote? {d : Dialect} {q : Char} (h : identQuote? d q = some q) : q = '"' ∨ q = '\x60' := by
  cases d <;> simp [identQuote?] at h <;> grind

theorem nextToken_quoted {d : Dialect} {q : Char} (hq : identQuote? d q = some q) (previous : Option Token) (cs : List Char) :
    nextToken d previous q cs = quotedIdent q q cs := by
  rcases quote_of_identQuote? hq with rfl | rfl <;> cases d <;> first | rfl | exact absurd hq (by decide)

/-- A printed name is one token. -/
theorem nextToken_ident {d : Dialect} {i : Ident} (h : isPlainIdent d i = true) :
    ∃ c cs, i.print.toList = c :: cs ∧ startsName c = true ∧ ∀ previous rest, WordEnd d rest →
      nextToken d previous c (cs ++ rest) = .ok (identToken i, cs.length + 1) := by
  obtain ⟨text, quote⟩ := i
  cases quote with
  | none =>
    simp only [isPlainIdent, Bool.and_eq_true, Option.isNone_iff_eq_none] at h
    obtain ⟨hw, hk⟩ := h
    cases ht : text.toList with
    | nil => rw [ht] at hw; cases hw
    | cons c cs =>
      rw [ht] at hw hk
      simp only [isPlainWord, Bool.and_eq_true, List.all_eq_true] at hw
      refine ⟨c, cs, ht, by simp [startsName, hw.1], fun previous rest hr => ?_⟩
      have htoken : Token.plainWord (c :: cs) = identToken ⟨text, none⟩ := by
        rw [Token.plainWord, hk, ← ht, String.ofList_toList]
        rfl
      rw [nextToken_word hw.1 hw.2 hr, htoken]
  | some q =>
    simp only [isPlainIdent, Bool.and_eq_true, beq_iff_eq] at h
    obtain ⟨hq, hi⟩ := h
    have hcases := quote_of_identQuote? hq
    have hprint : (Ident.print ⟨text, some q⟩).toList = q :: (doubleQuotes q '\x00' text.toList ++ [q]) := by
      rw [← toList_quoteText]
      rcases hcases with rfl | rfl <;> rfl
    refine ⟨q, _, hprint, by rcases hcases with rfl | rfl <;> decide, fun previous rest hr => ?_⟩
    have hne : rest.head? ≠ some q := by
      intro he
      obtain ⟨-, -, h1, -, h2⟩ := hr q he
      rcases hcases with rfl | rfl
      · exact h1 rfl
      · exact h2 rfl
    rw [nextToken_quoted hq, List.append_assoc, List.singleton_append, quotedIdent, quotedBody_doubleQuotes hne hi (.inl rfl)]
    simp [identToken, Token.quotedWord, String.ofList_toList]

/-- The period before a name. -/
theorem nextToken_period {d : Dialect} {previous : Option Token} {c : Char} (hc : startsName c = true) (cs : List Char) :
    nextToken d previous '.' (c :: cs) = .ok (.symbol ".", 1) := by
  have hdigit : c.isDigit = false := by
    simp only [startsName, Bool.or_eq_true, beq_iff_eq] at hc
    rcases hc with (hc | rfl) | rfl
    · exact isDigit_of_isAlpha hc
    · rfl
    · rfl
  have hscore : c ≠ '_' := by
    rintro rfl
    exact absurd hc (by decide)
  have hdigits : digits d false (c :: cs) = [] := by simp [digits, hdigit, hscore]
  have hwhole : digits d false ('.' :: c :: cs) = [] := by simp [digits]
  have hnext : nextToken d previous '.' (c :: cs) = number d previous ('.' :: c :: cs) := by cases d <;> rfl
  rw [hnext]
  unfold number
  simp only [hwhole, List.length_nil, List.drop_zero, List.head?_cons, List.nil_append, List.drop_one, List.tail_cons]
  have hfirst : ((some '.' == some '.') && ('.' :: c :: cs)[1]? == some '_') = false := by simp [hscore]
  rw [hfirst]
  simp [hdigits]

/-- The tokens of a possibly qualified name. -/
def nameTokens : ObjectName → List Token
  | [] => []
  | [i] => [identToken i]
  | i :: j :: is => identToken i :: .symbol "." :: nameTokens (j :: is)

theorem lex_name {d : Dialect} {name : ObjectName} (hne : name ≠ []) (h : ∀ i ∈ name, isPlainIdent d i = true) :
    (∃ c cs, name.print.toList = c :: cs ∧ startsName c = true) ∧ ∀ previous rest, Delimited rest →
      lex d previous (name.print.toList ++ rest) = (lex d none rest).map (nameTokens name ++ ·) := by
  induction name with
  | nil => exact absurd rfl hne
  | cons i is ih =>
    obtain ⟨c, cs, hp, hc, hread⟩ := nextToken_ident (h i List.mem_cons_self)
    cases is with
    | nil =>
      have hprint : ObjectName.print [i] = i.print := by simp [ObjectName.print, Text.join]
      rw [hprint, hp]
      refine ⟨⟨c, cs, rfl, hc⟩, fun previous rest hr => ?_⟩
      rw [List.cons_append, lex_cons (hread previous rest hr.wordEnd), Nat.add_sub_cancel, List.drop_left, lex_delimited hr]
      rfl
    | cons j is =>
      obtain ⟨⟨c', cs', hp', hc'⟩, hrest⟩ := ih (by simp) fun k hk => h k (List.mem_cons_of_mem _ hk)
      have hprint : (ObjectName.print (i :: j :: is)).toList = c :: (cs ++ '.' :: (ObjectName.print (j :: is)).toList) := by
        have : ObjectName.print (i :: j :: is) = i.print ++ "." ++ ObjectName.print (j :: is) := String.intercalate_cons_cons
        rw [this, String.toList_append, String.toList_append, hp]
        simp
      rw [hprint]
      refine ⟨⟨c, _, rfl, hc⟩, fun previous rest hr => ?_⟩
      have hend : WordEnd d ('.' :: ((ObjectName.print (j :: is)).toList ++ rest)) := wordEnd_period d _
      have hperiod : nextToken d (some (identToken i)) '.' ((ObjectName.print (j :: is)).toList ++ rest) = .ok (.symbol ".", 1) := by
        rw [hp']
        exact nextToken_period hc' _
      rw [List.cons_append, List.append_assoc, List.cons_append, lex_cons (hread previous _ hend), Nat.add_sub_cancel,
        List.drop_left, lex_cons hperiod, Nat.sub_self, List.drop_zero, hrest _ rest hr]
      cases lex d none rest <;> simp [nameTokens]

theorem reads_name {d : Dialect} {name : ObjectName} (hne : name ≠ []) (h : ∀ i ∈ name, isPlainIdent d i = true) :
    Reads d name.print.toList (nameTokens name) :=
  fun previous _ rest hr => (lex_name hne h).2 previous rest hr

/-! ## Numbers and placeholders -/

theorem digits_append {d : Dialect} {cs rest : List Char} (h : ∀ c ∈ cs, c.isDigit = true) (hr : Delimited rest) :
    digits d false (cs ++ rest) = cs := by
  induction cs with
  | nil => rcases hr.cases with rfl | ⟨b, rest, rfl, rfl | rfl | rfl | rfl⟩ <;> simp [digits]
  | cons c cs ih =>
    have hc := h c List.mem_cons_self
    simp only [List.cons_append, digits, hc]
    simp [ih fun x hx => h x (List.mem_cons_of_mem _ hx)]

theorem nextToken_digit {d : Dialect} {c : Char} (h : c.isDigit = true) (previous : Option Token) (cs : List Char) :
    nextToken d previous c cs = number d previous (c :: cs) := by
  have hd : c = '0' ∨ c = '1' ∨ c = '2' ∨ c = '3' ∨ c = '4' ∨ c = '5' ∨ c = '6' ∨ c = '7' ∨ c = '8' ∨ c = '9' := by
    simp only [Char.isDigit, Bool.and_eq_true, decide_eq_true_eq, ge_iff_le, UInt32.le_iff_toNat_le] at h
    have h1 : 48 ≤ c.toNat := h.1
    have h2 : c.toNat ≤ 57 := h.2
    have hc : Char.ofNat c.toNat = c := Char.ofNat_toNat c
    have hn : c.toNat = 48 ∨ c.toNat = 49 ∨ c.toNat = 50 ∨ c.toNat = 51 ∨ c.toNat = 52 ∨ c.toNat = 53 ∨ c.toNat = 54 ∨
        c.toNat = 55 ∨ c.toNat = 56 ∨ c.toNat = 57 := by omega
    rcases hn with hn | hn | hn | hn | hn | hn | hn | hn | hn | hn <;> rw [hn] at hc <;> simp [← hc]
  rcases hd with rfl | rfl | rfl | rfl | rfl | rfl | rfl | rfl | rfl | rfl <;> cases d <;> rfl

/-- A text of digits is a number. -/
theorem reads_number {d : Dialect} {cs : List Char} (hne : cs ≠ []) (h : ∀ c ∈ cs, c.isDigit = true) :
    Reads d cs [.number (String.ofList cs) false] := by
  cases cs with
  | nil => exact absurd rfl hne
  | cons c cs =>
    apply reads_token
    intro rest hr
    have hpoint : c ≠ '.' := by
      rintro rfl
      exact absurd (h '.' List.mem_cons_self) (by decide)
    rw [nextToken_digit (h c List.mem_cons_self), ← List.cons_append]
    unfold number
    simp only [digits_append h hr]
    rcases hr.cases with rfl | ⟨b, rest, rfl, rfl | rfl | rfl | rfl⟩ <;> simp [hpoint, digits, exponent]
    all_goals
      intro _ hp
      cases d <;> exact absurd hp (by decide)

theorem isNumeral_of_isDigit {c : Char} (h : c.isDigit = true) : Text.isNumeral c = true := by
  have ha : Text.isAscii c = true := by
    simp only [Char.isDigit, Bool.and_eq_true, decide_eq_true_eq] at h
    simp only [Text.isAscii, decide_eq_true_eq]
    exact Nat.lt_of_le_of_lt h.2 (by decide)
  rw [Text.isNumeral, if_pos ha, h]

/-- Placeholders that are one token: a question mark, or a dollar sign and digits, where the dialect has them. -/
def isPlainPlaceholder (d : Dialect) (text : String) : Bool :=
  match text.toList with
  | ['?'] => d != .postgresql
  | '$' :: c :: cs => d != .mysql && (c :: cs).all Char.isDigit
  | _ => false

theorem reads_placeholder {d : Dialect} {text : String} (h : isPlainPlaceholder d text = true) :
    Reads d text.toList [.placeholder text] := by
  unfold isPlainPlaceholder at h
  split at h
  · rename_i ht
    have htext : text = "?" := String.toList_inj.1 ht
    subst htext
    rw [ht]
    apply reads_token
    intro rest hr
    rcases hr.cases with rfl | ⟨b, rest, rfl, rfl | rfl | rfl | rfl⟩ <;> cases d <;> first | rfl | exact absurd h (by decide)
  · rename_i c cs ht
    simp only [Bool.and_eq_true, bne_iff_ne, List.all_eq_true] at h
    obtain ⟨hd, hcs⟩ := h
    rw [ht]
    apply reads_token
    intro rest hr
    have hnext : nextToken d none '$' (c :: cs ++ rest) = dollar d (c :: cs ++ rest) := by
      cases d <;> first | rfl | exact absurd rfl hd
    have hc : c ≠ '$' := by
      rintro rfl
      exact absurd (hcs '$' List.mem_cons_self) (by decide)
    have hname : dollar d (c :: cs ++ rest) = dollar.name d (c :: cs ++ rest) := by
      unfold dollar
      split
      · rename_i he
        exact absurd (List.cons.inj he).1 hc
      · rfl
    have htake : (c :: cs ++ rest).takeWhile (fun c => Text.isAlnum c || c == '_' || (c == '$' && dollarNames d)) = c :: cs := by
      rw [List.takeWhile_append_of_pos]
      · rcases hr.cases with rfl | ⟨b, rest, rfl, rfl | rfl | rfl | rfl⟩ <;> simp [List.takeWhile_cons] <;> decide
      · intro x hx
        simp [Text.isAlnum, isNumeral_of_isDigit (hcs x hx)]
    have hdrop : (c :: cs ++ rest).drop (c :: cs).length = rest := List.drop_left
    rw [hnext, hname, dollar.name]
    simp only [takeCount, htake, hdrop]
    have htext : text = String.ofList ('$' :: c :: cs) := by rw [← ht, String.ofList_toList]
    rcases hr.cases with rfl | ⟨b, rest, rfl, rfl | rfl | rfl | rfl⟩ <;> simp [htext]
  · cases h

end SqlTemplate.Lexer
