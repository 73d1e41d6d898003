/-
Markers of a text that is put together from pieces. Whether a colon makes a marker depends on the tokens
around it, so markers need not be those of the pieces one by one; they are where a delimiter stands
between the pieces and no piece begins with a colon after an operand.
-/
import SqlTemplate.Parameter
import SqlTemplate.Proofs.Token.Reads

namespace SqlTemplate.Parameter

open Lexer (Reads lex delimiter?)

/-! ## Markers of tokens -/

/-- What a colon makes a marker with. -/
def wordAfterColon? : List Token → Option String
  | .word w :: _ => some w.text
  | .number text _ :: _ => some text
  | _ => none

/-- The text of the marker that begins with a token. -/
def markerText? (previous : Option Token) (t : Token) (rest : List Token) : Option String :=
  match t with
  | .placeholder text => some text
  | .symbol ":" => if endsOperand previous then none else (wordAfterColon? rest).map (":" ++ ·)
  | _ => none

/-- The last token that is no blank, after `previous`. -/
def lastSolid (previous : Option Token) : List Token → Option Token
  | [] => previous
  | t :: ts => lastSolid (if t.isBlank then previous else some t) ts

/-- The texts of the markers of tokens that follow `previous`. -/
def markerTexts (previous : Option Token) : List Token → List String
  | [] => []
  | t :: ts => (markerText? previous t ts).toList ++ markerTexts (if t.isBlank then previous else some t) ts

theorem map_text_markersFrom (previous : Option Token) (tokens : List Lexeme) :
    (markersFrom previous tokens).map Marker.text = markerTexts previous (tokens.map Lexeme.token) := by
  induction tokens generalizing previous with
  | nil => rfl
  | cons t rest ih =>
    have hname : nameAfterColon? rest = wordAfterColon? (rest.map Lexeme.token) := by
      cases rest with
      | nil => rfl
      | cons s rest => obtain ⟨token, l⟩ := s; cases token <;> rfl
    have hmark : (marker? previous t rest).map Marker.text = markerText? previous t.token (rest.map Lexeme.token) := by
      obtain ⟨token, l⟩ := t
      cases token with
      | symbol s =>
        by_cases hs : s = ":"
        · subst hs
          show Option.map Marker.text (if endsOperand previous then none else
            (nameAfterColon? rest).map fun name => ⟨":" ++ name, l⟩) = if endsOperand previous then none else _
          split_ifs
          · rfl
          · rw [hname, Option.map_map]; rfl
        · simp [marker?, markerText?, hs]
      | _ => rfl
    rw [markersFrom, List.map_append, ih, List.map_cons, markerTexts, ← hmark]
    cases marker? previous t rest <;> rfl

/-- A colon at the end of a text stays alone if no word or number follows directly. -/
theorem markerTexts_append (previous : Option Token) (ts : List Token) {us : List Token}
    (h : wordAfterColon? us = none) :
    markerTexts previous (ts ++ us) = markerTexts previous ts ++ markerTexts (lastSolid previous ts) us := by
  induction ts generalizing previous with
  | nil => rfl
  | cons t ts ih =>
    have hw : wordAfterColon? (ts ++ us) = wordAfterColon? ts := by
      cases ts with
      | nil => exact h
      | cons s ts => cases s <;> rfl
    have hm : markerText? previous t (ts ++ us) = markerText? previous t ts := by
      unfold markerText?
      rw [hw]
    rw [List.cons_append, markerTexts, hm, ih, markerTexts, lastSolid, List.append_assoc]

/-- Whether the first token that is no blank is a colon. -/
def colonFirst : List Token → Bool
  | [] => false
  | .blank :: ts => colonFirst ts
  | t :: _ => t == .symbol ":"

/-- What comes before matters to a colon only. -/
theorem markerTexts_context {previous : Option Token} {ts : List Token}
    (h : colonFirst ts = true → endsOperand previous = false) : markerTexts previous ts = markerTexts none ts := by
  induction ts with
  | nil => rfl
  | cons t ts ih =>
    by_cases hb : t = .blank
    · subst hb
      exact ih h
    · have hs : t.isBlank = false := by cases t <;> first | rfl | exact absurd rfl hb
      have hm : markerText? previous t ts = markerText? none t ts := by
        unfold markerText?
        split
        · rfl
        · rw [h (by simp [colonFirst])]; rfl
        · rfl
      rw [markerTexts, markerTexts, hm, hs]
      rfl

/-! ## Markers of texts -/

def tokensOf (d : Dialect) (text : String) : List Token := (lex d none text.toList).getD []

/-- The markers of a text. -/
def markersOf (d : Dialect) (text : String) : List String := markerTexts none (tokensOf d text)

/-- The text is read as its tokens, whatever stands around it. -/
def Apart (d : Dialect) (text : String) : Prop := Reads d text.toList (tokensOf d text)

/-- A piece of a printed text, and whether a comma follows it. -/
structure Piece where
  text : String
  comma : Bool

namespace Piece

def chars (x : Piece) : List Char := x.text.toList ++ if x.comma then [','] else []

def tokens (d : Dialect) (x : Piece) : List Token := tokensOf d x.text ++ if x.comma then [.symbol ","] else []

/-- Pieces in a row, each after a blank. -/
def charsAfter (xs : List Piece) : List Char := xs.flatMap fun x => ' ' :: x.chars

def tokensAfter (d : Dialect) (xs : List Piece) : List Token := xs.flatMap fun x => .blank :: x.tokens d

/-- Pieces in a row with blanks between them. -/
def charsOf : List Piece → List Char
  | [] => []
  | x :: xs => x.chars ++ charsAfter xs

def tokensIn (d : Dialect) : List Piece → List Token
  | [] => []
  | x :: xs => x.tokens d ++ tokensAfter d xs

/-- The pieces are read one by one, after the token `previous`: each of them apart, and none as part of an operand
before it. -/
def Legible (d : Dialect) (previous : Option Token) : List Piece → Prop
  | [] => True
  | x :: xs =>
    Apart d x.text ∧ (colonFirst (tokensOf d x.text) = true → endsOperand previous = false) ∧
      Legible d (lastSolid previous (x.tokens d)) xs

theorem Legible.apart {d : Dialect} {previous : Option Token} {xs : List Piece} (h : Legible d previous xs) {x : Piece}
    (hx : x ∈ xs) : Apart d x.text := by
  induction xs generalizing previous with
  | nil => cases hx
  | cons y xs ih =>
    rcases List.mem_cons.1 hx with rfl | hx
    · exact h.1
    · exact ih h.2.2 hx

/-- Pieces that begin with no colon need only be read apart. -/
theorem legible_of_forall {d : Dialect} {xs : List Piece}
    (h : ∀ x ∈ xs, Apart d x.text ∧ colonFirst (tokensOf d x.text) = false) (previous : Option Token) :
    Legible d previous xs := by
  induction xs generalizing previous with
  | nil => trivial
  | cons x xs ih =>
    obtain ⟨ha, hc⟩ := h x List.mem_cons_self
    exact ⟨ha, fun he => absurd he (by simp [hc]), ih (fun y hy => h y (List.mem_cons_of_mem _ hy)) _⟩

theorem reads_chars {d : Dialect} {x : Piece} (h : Apart d x.text) : Reads d x.chars (x.tokens d) := by
  obtain ⟨text, comma⟩ := x
  cases comma with
  | false =>
    have he : chars ⟨text, false⟩ = text.toList := List.append_nil _
    have ht : tokens d ⟨text, false⟩ = tokensOf d text := List.append_nil _
    rw [he, ht]
    exact h
  | true => exact h.append rfl (.nil d)

theorem delimited_charsAfter (xs : List Piece) : Lexer.Delimited (charsAfter xs) := by
  cases xs with
  | nil => simp [charsAfter, Lexer.Delimited]
  | cons x xs => simp [charsAfter, Lexer.Delimited, delimiter?]

theorem Legible.reads_after {d : Dialect} {previous : Option Token} {xs : List Piece} (h : Legible d previous xs) :
    Reads d (charsAfter xs) (tokensAfter d xs) := by
  induction xs generalizing previous with
  | nil => exact .nil d
  | cons x xs ih =>
    have hx := (reads_chars h.1).append_delimited (ih h.2.2) (delimited_charsAfter xs)
    exact (Reads.nil d).append rfl hx

theorem Legible.reads {d : Dialect} {previous : Option Token} {xs : List Piece} (h : Legible d previous xs) :
    Reads d (charsOf xs) (tokensIn d xs) := by
  cases xs with
  | nil => exact .nil d
  | cons x xs => exact (reads_chars h.1).append_delimited h.2.2.reads_after (delimited_charsAfter xs)

theorem markerTexts_tokens {d : Dialect} {previous : Option Token} {x : Piece}
    (h : colonFirst (tokensOf d x.text) = true → endsOperand previous = false) :
    markerTexts previous (x.tokens d) = markersOf d x.text := by
  obtain ⟨text, comma⟩ := x
  cases comma with
  | false =>
    rw [tokens, if_neg (by simp), List.append_nil]
    exact markerTexts_context h
  | true =>
    rw [tokens, if_pos rfl, markerTexts_append _ _ rfl, markerTexts_context h]
    exact List.append_nil _

theorem wordAfterColon?_tokensAfter (d : Dialect) (xs : List Piece) : wordAfterColon? (tokensAfter d xs) = none := by
  cases xs <;> rfl

theorem Legible.markerTexts_after {d : Dialect} {previous : Option Token} {xs : List Piece}
    (h : Legible d previous xs) : markerTexts previous (tokensAfter d xs) = xs.flatMap fun x => markersOf d x.text := by
  induction xs generalizing previous with
  | nil => rfl
  | cons x xs ih =>
    obtain ⟨-, hc, hr⟩ := h
    have hb : markerTexts previous (tokensAfter d (x :: xs)) = markerTexts previous (x.tokens d ++ tokensAfter d xs) := rfl
    rw [hb, markerTexts_append _ _ (wordAfterColon?_tokensAfter d xs), markerTexts_tokens hc, ih hr, List.flatMap_cons]

/-- The markers of legible pieces are those of the pieces one by one. -/
theorem Legible.markerTexts_tokensIn {d : Dialect} {previous : Option Token} {xs : List Piece}
    (h : Legible d previous xs) : markerTexts previous (tokensIn d xs) = xs.flatMap fun x => markersOf d x.text := by
  cases xs with
  | nil => rfl
  | cons x xs =>
    rw [tokensIn, markerTexts_append _ _ (wordAfterColon?_tokensAfter d xs), markerTexts_tokens h.2.1,
      h.2.2.markerTexts_after, List.flatMap_cons]

/-- The markers of a text made of legible pieces. -/
theorem Legible.markersOf_eq {d : Dialect} {xs : List Piece} {text : String} (h : Legible d none xs)
    (ht : text.toList = charsOf xs) : markersOf d text = xs.flatMap fun x => markersOf d x.text := by
  rw [markersOf, tokensOf, ht, h.reads.lex_eq, Option.getD_some, h.markerTexts_tokensIn]

end Piece

end SqlTemplate.Parameter
