/-
Texts that are read apart from what stands around them. Printed text is a sequence of pieces with
delimiters between them: blanks, commas and parentheses. `Reads d x ts` says that the piece `x` is read
as the tokens `ts` whatever comes before it and whatever a delimiter after it leads to; pieces compose.
-/
import SqlTemplate.Proofs.Token.Lexer

namespace SqlTemplate.Lexer

/-! ## Tokens without their places -/

/-- The tokens of a text that follows the token `previous`. -/
def lex (d : Dialect) (previous : Option Token) (cs : List Char) : Option (List Token) :=
  (run d previous 0 ⟨1, 1⟩ cs).toOption.map (·.map Lexeme.token)

theorem run_eq {d : Dialect} {previous : Option Token} {l : Location} {c : Char} {cs : List Char} {tok : Token} {n : Nat}
    (h : nextToken d previous c cs = .ok (tok, n)) :
    run d previous 0 l (c :: cs) =
      (run d (some tok) 0 (locate (advance l c) cs (n - 1)) (cs.drop (n - 1))).map (⟨tok, l⟩ :: ·) := by
  rw [run, h]
  simp only
  rw [run_skip d (some tok) (advance l c) (n - 1)]
  cases run d (some tok) 0 (locate (advance l c) cs (n - 1)) (cs.drop (n - 1)) <;> rfl

theorem run_error {d : Dialect} {previous : Option Token} {l : Location} {c : Char} {cs : List Char} {e : String × Nat}
    (h : nextToken d previous c cs = .error e) : (run d previous 0 l (c :: cs)).toOption = none := by
  rw [run, h]; rfl

/-- Places do not matter to what the tokens are. -/
theorem lex_eq_run (d : Dialect) (previous : Option Token) (l : Location) (cs : List Char) :
    (run d previous 0 l cs).toOption.map (·.map Lexeme.token) = lex d previous cs := by
  suffices h : ∀ l', (run d previous 0 l cs).toOption.map (·.map Lexeme.token) =
      (run d previous 0 l' cs).toOption.map (·.map Lexeme.token) from h _
  induction hl : cs.length using Nat.strong_induction_on generalizing cs previous l with
  | _ m ih =>
    intro l'
    subst hl
    cases cs with
    | nil => rfl
    | cons c cs =>
      cases hn : nextToken d previous c cs with
      | error e => rw [run_error hn, run_error hn]
      | ok r =>
        obtain ⟨tok, n⟩ := r
        rw [run_eq hn, run_eq hn]
        have hlt : (cs.drop (n - 1)).length < (c :: cs).length := by
          rw [List.length_drop, List.length_cons]; omega
        have h := ih _ hlt (some tok) (locate (advance l c) cs (n - 1)) _ rfl (locate (advance l' c) cs (n - 1))
        revert h
        cases run d (some tok) 0 (locate (advance l c) cs (n - 1)) (cs.drop (n - 1)) <;>
          cases run d (some tok) 0 (locate (advance l' c) cs (n - 1)) (cs.drop (n - 1)) <;> simp [Except.toOption, Except.map]

theorem lex_nil (d : Dialect) (previous : Option Token) : lex d previous [] = some [] := rfl

theorem lex_cons {d : Dialect} {previous : Option Token} {c : Char} {cs : List Char} {tok : Token} {n : Nat}
    (h : nextToken d previous c cs = .ok (tok, n)) :
    lex d previous (c :: cs) = (lex d (some tok) (cs.drop (n - 1))).map (tok :: ·) := by
  rw [lex, run_eq h, ← lex_eq_run d (some tok) (locate (advance ⟨1, 1⟩ c) cs (n - 1))]
  cases run d (some tok) 0 (locate (advance ⟨1, 1⟩ c) cs (n - 1)) (cs.drop (n - 1)) <;> rfl

/-! ## Delimiters -/

/-- Characters that end a piece of text, and the tokens that they are. -/
def delimiter? : Char → Option Token
  | ' ' => some .blank
  | ',' => some (.symbol ",")
  | '(' => some (.symbol "(")
  | ')' => some (.symbol ")")
  | _ => none

theorem nextToken_delimiter {d : Dialect} {previous : Option Token} {b : Char} {t : Token} (h : delimiter? b = some t)
    (cs : List Char) : nextToken d previous b cs = .ok (t, 1) := by
  unfold delimiter? at h
  split at h
  · cases h; rfl
  · cases h; cases d <;> rfl
  · cases h; cases d <;> rfl
  · cases h; cases d <;> rfl
  · cases h

/-- Tokens that do not bear on how the text after them is read. -/
def neutral : Option Token → Bool
  | some (.word _) => false
  | some (.symbol s) => s != "."
  | _ => true

theorem neutral_delimiter {b : Char} {t : Token} (h : delimiter? b = some t) : neutral (some t) = true := by
  unfold delimiter? at h
  split at h <;> cases h <;> decide

theorem number_neutral {d : Dialect} {p : Option Token} (h : neutral p = true) (cs : List Char) :
    number d p cs = number d none cs := by
  have h1 : p.any Token.isWord = false := by
    cases p with
    | none => rfl
    | some t => cases t <;> first | rfl | cases h
  have h2 : (p == some (.symbol ".")) = false := by
    cases p with
    | none => rfl
    | some t => cases t <;> simp_all [neutral]
  have h3 : ((none : Option Token) == some (.symbol ".")) = false := rfl
  simp only [number, h1, h2, h3, Option.any_none]

theorem nextToken_neutral {d : Dialect} {p : Option Token} (h : neutral p = true) (c : Char) (cs : List Char) :
    nextToken d p c cs = nextToken d none c cs := by
  unfold nextToken solid
  rw [number_neutral h]

/-- The text is empty or begins with a delimiter. -/
def Delimited (cs : List Char) : Prop := ∀ b ∈ cs.head?, (delimiter? b).isSome = true

/-- The piece `x` is read as the tokens `ts`, whatever comes before it and whatever a delimiter after it leads to. -/
def Reads (d : Dialect) (x : List Char) (ts : List Token) : Prop :=
  ∀ previous, neutral previous = true → ∀ rest, Delimited rest →
    lex d previous (x ++ rest) = (lex d none rest).map (ts ++ ·)

theorem lex_delimiter {d : Dialect} {previous : Option Token} {b : Char} {t : Token} (h : delimiter? b = some t)
    (cs : List Char) : lex d previous (b :: cs) = (lex d (some t) cs).map (t :: ·) :=
  lex_cons (nextToken_delimiter h cs)

theorem lex_delimited {d : Dialect} {rest : List Char} (h : Delimited rest) (previous : Option Token) :
    lex d previous rest = lex d none rest := by
  cases rest with
  | nil => rfl
  | cons b cs =>
    obtain ⟨t, ht⟩ := Option.isSome_iff_exists.1 (h b rfl)
    rw [lex_delimiter ht, lex_delimiter ht]

theorem Reads.nil (d : Dialect) : Reads d [] [] := by
  intro previous hp rest hr
  rw [List.nil_append, lex_delimited hr]
  simp

/-- A piece by itself is read as its tokens. -/
theorem Reads.lex_eq {d : Dialect} {x : List Char} {ts : List Token} (h : Reads d x ts) : lex d none x = some ts := by
  have := h none rfl [] (by simp [Delimited])
  simpa [lex_nil] using this

/-- Two pieces with a delimiter between them. -/
theorem Reads.append {d : Dialect} {x y : List Char} {ts us : List Token} {b : Char} {t : Token} (hx : Reads d x ts)
    (hb : delimiter? b = some t) (hy : Reads d y us) : Reads d (x ++ b :: y) (ts ++ t :: us) := by
  intro previous hp rest hr
  have hd : Delimited (b :: (y ++ rest)) := by simp [Delimited, hb]
  rw [List.append_assoc, List.cons_append, hx previous hp _ hd, lex_delimiter hb, hy _ (neutral_delimiter hb) rest hr]
  cases lex d none rest <;> simp

/-- Two pieces of which the second begins with a delimiter. -/
theorem Reads.append_delimited {d : Dialect} {x y : List Char} {ts us : List Token} (hx : Reads d x ts)
    (hy : Reads d y us) (hd : Delimited y) : Reads d (x ++ y) (ts ++ us) := by
  intro previous hp rest hr
  have hyr : Delimited (y ++ rest) := by
    cases y with
    | nil => exact hr
    | cons b y => exact hd
  rw [List.append_assoc, hx previous hp _ hyr, hy none rfl rest hr]
  cases lex d none rest <;> simp

/-- A piece that is one token. -/
theorem reads_token {d : Dialect} {c : Char} {cs : List Char} {tok : Token}
    (h : ∀ rest, Delimited rest → nextToken d none c (cs ++ rest) = .ok (tok, cs.length + 1)) :
    Reads d (c :: cs) [tok] := by
  intro previous hp rest hr
  have hn : nextToken d previous c (cs ++ rest) = .ok (tok, cs.length + 1) := by rw [nextToken_neutral hp, h rest hr]
  rw [List.cons_append, lex_cons hn, Nat.add_sub_cancel, List.drop_left, lex_delimited hr]
  rfl

end SqlTemplate.Lexer
