/-
Markers of a token stream that is cut in two, and of one in which blanks are put in or taken out. Whether a token begins
a marker depends on the last token before it that is no blank and, for a colon, on the token directly behind it. So a
stream may be cut wherever no colon is parted from what it would be joined with, on either side, and blanks may stand
anywhere but directly after a colon.
-/
import SqlTemplate.Proofs.Parameter.Pieces
import Mathlib.Logic.Relation

namespace SqlTemplate.Parameter

variable {previous : Option Token} {t : Lexeme} {as bs rest : List Lexeme}

/-! ## What a marker depends on -/

def isColon (t : Token) : Bool := t == .symbol ":"

/-- Whether the last token of all is a colon, so that a word behind it would be a part of its marker. -/
def endsInColon (as : List Lexeme) : Bool := as.getLast?.any fun t => isColon t.token

/-- Whether the last token that is no blank ends an operand, so that a colon behind it would be an operator. -/
def endsInOperand (as : List Lexeme) : Bool := endsOperand (lastSolid none (as.map Lexeme.token))

/-- Whether the first token that is no blank is a colon. -/
def beginsWithColon (bs : List Lexeme) : Bool := colonFirst (bs.map Lexeme.token)

/-- Only a colon looks around. -/
theorem marker?_of_not_isColon (h : isColon t.token = false) (previous previous' : Option Token) (rest rest' : List Lexeme) :
    marker? previous t rest = marker? previous' t rest' := by
  have hne : t.token ≠ .symbol ":" := by simpa [isColon] using h
  unfold marker?
  split
  · rfl
  · rename_i hcolon
    exact absurd hcolon hne
  · rfl

/-- A colon looks at one token behind it. -/
theorem marker?_cons (previous : Option Token) (t s : Lexeme) (rest rest' : List Lexeme) :
    marker? previous t (s :: rest) = marker? previous t (s :: rest') := by
  have hname : nameAfterColon? (s :: rest) = nameAfterColon? (s :: rest') := by
    obtain ⟨token, l⟩ := s
    cases token <;> rfl
  unfold marker?
  rw [hname]

theorem marker?_of_isBlank (h : t.token.isBlank = true) (previous : Option Token) (rest : List Lexeme) :
    marker? previous t rest = none := by
  obtain ⟨token, l⟩ := t
  cases token <;> first | rfl | cases h

theorem markersFrom_of_isBlank (h : t.token.isBlank = true) (previous : Option Token) (rest : List Lexeme) :
    markersFrom previous (t :: rest) = markersFrom previous rest := by
  rw [markersFrom, marker?_of_isBlank h, h]
  rfl

/-! ## Cutting in two -/

/-- The first part is read as if nothing came after it. -/
theorem markersFrom_append (h : endsInColon as = false) :
    markersFrom previous (as ++ bs) =
      markersFrom previous as ++ markersFrom (lastSolid previous (as.map Lexeme.token)) bs := by
  induction as generalizing previous with
  | nil => rfl
  | cons t as ih =>
    have hmark : marker? previous t (as ++ bs) = marker? previous t as := by
      cases as with
      | nil => exact marker?_of_not_isColon h previous previous bs []
      | cons s as => exact marker?_cons previous t s (as ++ bs) as
    have has : endsInColon as = false := by
      cases as with
      | nil => rfl
      | cons s as => exact h
    rw [List.cons_append, markersFrom, hmark, ih has, markersFrom, List.append_assoc]
    rfl

/-- The second part is read as if nothing came before it. -/
theorem markersFrom_context (h : beginsWithColon bs = true → endsOperand previous = false) :
    markersFrom previous bs = markersFrom none bs := by
  induction bs with
  | nil => rfl
  | cons t bs ih =>
    cases hb : t.token.isBlank with
    | true =>
      -- a blank hands on the question to what follows it
      have hbs : beginsWithColon (t :: bs) = beginsWithColon bs := by
        obtain ⟨token, l⟩ := t
        cases token <;> first | rfl | cases hb
      rw [markersFrom_of_isBlank hb, markersFrom_of_isBlank hb, ih (hbs ▸ h)]
    | false =>
      have hmark : marker? previous t bs = marker? none t bs := by
        cases hc : isColon t.token with
        | false => exact marker?_of_not_isColon hc previous none bs bs
        | true =>
          have htoken : t.token = .symbol ":" := by simpa [isColon] using hc
          have hfirst : beginsWithColon (t :: bs) = true := by
            rw [beginsWithColon, List.map_cons, htoken]
            rfl
          unfold marker?
          rw [htoken, h hfirst]
          rfl
      rw [markersFrom, hmark, hb, markersFrom, hb]
      rfl

/-! ## Blanks -/

/-- One blank more, which does not stand directly after a colon; or the same tokens at other places of the text. -/
inductive Spaces : List Lexeme → List Lexeme → Prop
  | blank (as : List Lexeme) (b : Lexeme) (bs : List Lexeme) (isBlank : b.token.isBlank = true)
      (apart : endsInColon as = false) : Spaces (as ++ bs) (as ++ b :: bs)
  | moved (ts us : List Lexeme) (tokens : ts.map Lexeme.token = us.map Lexeme.token) : Spaces ts us

/-- Blanks are put in and taken out, as often as one likes. -/
def Respaced : List Lexeme → List Lexeme → Prop := Relation.EqvGen Spaces

theorem Spaces.texts_eq {ts us : List Lexeme} (h : Spaces ts us) :
    (markers ts).map Marker.text = (markers us).map Marker.text := by
  cases h with
  | blank as b bs hb has => rw [markers, markers, markersFrom_append has, markersFrom_append has, markersFrom_of_isBlank hb]
  | moved ts us htokens => rw [markers, markers, map_text_markersFrom, map_text_markersFrom, htokens]

theorem Respaced.texts_eq {ts us : List Lexeme} (h : Respaced ts us) :
    (markers ts).map Marker.text = (markers us).map Marker.text := by
  induction h with
  | rel ts us h => exact h.texts_eq
  | refl ts => rfl
  | symm ts us _ ih => exact ih.symm
  | trans ts us vs _ _ ih ih' => exact ih.trans ih'

/-- Where a stream is cut so that no colon ends the first part and none that begins the second part comes after an
operand, its markers are those of the first part and then those of the second. Blanks that are put in or taken out
anywhere but directly after a colon leave the texts of the markers as they are. -/
theorem markers_boundaries :
    (∀ as bs : List Lexeme, endsInColon as = false → (beginsWithColon bs = true → endsInOperand as = false) →
      markers (as ++ bs) = markers as ++ markers bs ∧ count (as ++ bs) = count as + count bs) ∧
    ∀ ts us : List Lexeme, Respaced ts us → (markers ts).map Marker.text = (markers us).map Marker.text := by
  constructor
  · intro as bs hlast hfirst
    have happend : markers (as ++ bs) = markers as ++ markers bs := by
      rw [markers, markersFrom_append hlast, markersFrom_context hfirst]
      rfl
    exact ⟨happend, by rw [count, happend, List.length_append]; rfl⟩
  · intro ts us h
    exact h.texts_eq

/-- `a = | :x`, cut at the bar. -/
theorem markers_boundaries_named :
    let place (t : Token) : Lexeme := ⟨t, ⟨1, 1⟩⟩
    let as : List Lexeme := [place (.plainWord ['a']), place (.symbol "="), place .blank]
    let bs : List Lexeme := [place (.symbol ":"), place (.plainWord ['x'])]
    markers (as ++ bs) = markers as ++ markers bs ∧ count (as ++ bs) = 1 ∧
      (markers (as.dropLast ++ bs)).map Marker.text = (markers (as ++ bs)).map Marker.text := by
  intro place as bs
  obtain ⟨happend, hcount⟩ := markers_boundaries.1 as bs (by decide) (by decide)
  refine ⟨happend, hcount, markers_boundaries.2 _ _ (.rel _ _ ?_)⟩
  exact .blank as.dropLast (place .blank) bs rfl (by decide)

/-- A colon after an operand is no marker, though it would be one at the beginning of a stream: `1 | :2`. -/
example :
    let place (t : Token) : Lexeme := ⟨t, ⟨1, 1⟩⟩
    let bs : List Lexeme := [place (.symbol ":"), place (.number "2" false)]
    count (place (.number "1" false) :: bs) = 0 ∧ count bs = 1 := by
  decide

end SqlTemplate.Parameter
