/-
Two readers of one text. The template scanner records the `?` that it writes in code; the lexer finds
the placeholders of the normalized text. Names go from the one to the other by rank alone, so they are
right where both see the same `?`.

They do not on every text, since the lexical rules of the dialects differ from the scanner's in a few
places. Main statement: on a text in which the scanner meets none of these places, the question marks of
the lexer are those that the scanner recorded, and every parameter named after a placeholder stands where
the scanner wrote the `?` for it.
-/
import SqlTemplate.Proofs.Template.Read
import SqlTemplate.Proofs.Template.Tokens

namespace SqlTemplate

/-- A parameter that stands for a question mark. -/
def Parameter.isQuestion (x : Parameter) : Bool := Text.startsWith x.marker "?"

namespace Template

open Parameter (Marker)

/-! ## Runs of the lexer -/

theorem recorded_shift (d : Dialect) (s : Scan) (cs : List Char) (i : Nat) :
    (recorded d s 0 i cs).map Prod.fst = ((recorded d s 0 0 cs).map Prod.fst).map (i + ·) := by
  have h : ∀ i j, (recorded d s 0 (i + j) cs).map Prod.fst = ((recorded d s 0 j cs).map Prod.fst).map (i + ·) := by
    induction s, cs using scan_induction (d := d) with
    | nil s => intro i j; rfl
    | cons s c cs ih =>
      intro i j
      rw [recorded_cons, recorded_cons, List.map_append, List.map_append, List.map_append, Nat.add_assoc, ih]
      simp [Function.comp_def]
  exact h i 0

/-- The places of the question marks of a token stream. -/
def questions (tokens : List Lexeme) : List Location :=
  tokens.flatMap fun t => (questionOffsets t.token).map fun _ => t.location

/-- The question marks that the lexer finds in plain text are those that the scanner records. -/
theorem questions_run {d : Dialect} (hd : d ≠ .postgresql) {previous : Option Token} {l : Location} {cs : List Char}
    {tokens : List Lexeme} {p : Option Char} (h : Lexer.run d previous 0 l cs = .ok tokens)
    (hp : Plain d ⟨.code, p⟩ cs) :
    questions tokens = ((recorded d ⟨.code, p⟩ 0 0 cs).map Prod.fst).map (Lexer.locate l cs) := by
  induction hl : cs.length using Nat.strong_induction_on generalizing cs previous l tokens p with
  | _ m ih =>
    subst hl
    cases cs with
    | nil => cases h; rfl
    | cons c cs =>
      obtain ⟨tok, n, rest, hn, rfl, hr⟩ := Lexer.run_cons h
      obtain ⟨hpos, p', hreach⟩ := crosses_nextToken hd hn hp
      have hlt : ((c :: cs).drop n).length < (c :: cs).length := by
        rw [List.length_drop, List.length_cons]; omega
      have hrest := ih _ hlt (hr hpos) hreach.plain rfl
      -- the offsets of what is left count from the end of the token
      have hoff := hreach.offsets 0
      rw [Nat.zero_add, recorded_shift d ⟨.code, p'⟩] at hoff
      rw [hoff, List.map_append, List.map_map, List.map_map]
      have hmarks : (questionOffsets tok).map (Lexer.locate l (c :: cs) ∘ (0 + ·)) =
          (questionOffsets tok).map fun _ => l := by
        unfold questionOffsets
        split
        · split_ifs <;> rfl
        · rfl
      have hshift : (Lexer.locate l (c :: cs) ∘ (n + ·)) = Lexer.locate (Lexer.locate l (c :: cs) n) ((c :: cs).drop n) := by
        funext j
        exact Lexer.locate_add l (c :: cs) n j
      rw [hmarks, hshift, ← hrest]
      rfl

/-! ## Markers and parameters -/

theorem isQuestion_colon (name : String) (l : Location) : (⟨":" ++ name, l⟩ : Marker).isQuestion = false := by
  simp [Marker.isQuestion, Text.startsWith, List.isPrefixOf]

/-- Of the markers that begin with a token, those that are question marks. -/
theorem questions_marker? (previous : Option Token) (t : Lexeme) (rest : List Lexeme) :
    ((Parameter.marker? previous t rest).toList.filter Marker.isQuestion).map Marker.location =
      (questionOffsets t.token).map fun _ => t.location := by
  obtain ⟨token, location⟩ := t
  cases token with
  | placeholder text =>
    by_cases h : Text.startsWith text "?" = true <;>
      simp [Parameter.marker?, questionOffsets, Marker.isQuestion, h]
  | symbol text =>
    unfold Parameter.marker?
    split
    · rename_i heq; cases heq
    · split_ifs
      · rfl
      · cases Parameter.nameAfterColon? rest with
        | none => rfl
        | some name => simp [isQuestion_colon, questionOffsets]
    · rfl
  | _ => rfl

theorem questions_markersFrom (previous : Option Token) (tokens : List Lexeme) :
    ((Parameter.markersFrom previous tokens).filter Marker.isQuestion).map Marker.location = questions tokens := by
  induction tokens generalizing previous with
  | nil => rfl
  | cons t rest ih =>
    rw [Parameter.markersFrom, List.filter_append, List.map_append, ih, questions_marker?]
    rfl

/-- Each question mark takes the next origin. -/
theorem number_questions (i : Nat) (origins : List Origin) (ms : List Marker)
    (h : ms.countP Marker.isQuestion = origins.length) :
    ((Parameter.number i origins ms).filter Parameter.isQuestion).map (fun x => (x.location, x.name)) =
      ((ms.filter Marker.isQuestion).map Marker.location).zip (origins.map Origin.name?) := by
  induction ms generalizing i origins with
  | nil => rfl
  | cons m ms ih =>
    rw [Parameter.number]
    by_cases hm : m.isQuestion = true
    · rw [List.countP_cons_of_pos hm] at h
      obtain ⟨o, origins, rfl⟩ := List.exists_cons_of_length_eq_add_one h.symm
      have hx : Parameter.isQuestion ⟨i, m.text, o.name?, m.location⟩ = true := hm
      rw [if_pos hm, List.filter_cons_of_pos hm]
      simp only [List.head?_cons, Option.bind_some, List.tail_cons]
      rw [List.filter_cons_of_pos hx, List.map_cons, ih _ _ (by simpa using h)]
      rfl
    · rw [List.countP_cons_of_neg hm] at h
      have hx : ¬ Parameter.isQuestion ⟨i, m.text, m.ownName?, m.location⟩ = true := hm
      rw [if_neg hm, List.filter_cons_of_neg hm, List.filter_cons_of_neg hx, ih _ _ h]

/-! ## Names -/

/-- The text that a scan wrote is plain if nothing in it is contested. -/
theorem plain_scan {d : Dialect} {cs : List Char} (h : uncontested d .start 0 (scan d .start 0 cs).1 = true) :
    Plain d .start (scan d .start 0 cs).1 := by
  refine ⟨h, fun o ho => ?_⟩
  rw [scan_scan clean_start] at ho
  obtain ⟨_, -, rfl⟩ := List.mem_map.1 ho
  rfl

/-- On a template whose normalized text has no contested place, the question marks among the parameters are the `?`
that the scanner wrote or copied, in that order: each stands at the offset where the scanner recorded it, there is a `?`
there, and it has the name recorded with it. -/
theorem question_parameters {c : Config} {template : String} {ps : List Parameter}
    (hd : c.dialect ≠ .postgresql) (hn : c.namedPlaceholders = true)
    (hu : uncontested c.dialect .start 0 (normalize c.dialect template).text.toList = true)
    (h : parameters c template = .ok ps) :
    let text := (normalize c.dialect template).text.toList
    let marks := recorded c.dialect .start 0 0 template.toList
    (ps.filter Parameter.isQuestion).map (fun x => (x.location, x.name)) =
        marks.map (fun r => (Lexer.locate ⟨1, 1⟩ text r.1, r.2.name?)) ∧
      ∀ r ∈ marks, text[r.1]? = some '?' := by
  intro text marks
  obtain ⟨tokens, hrun, rfl⟩ := parameters_eq_ok h
  have hprep : prepare c template = normalize c.dialect template := by simp [prepare, hn]
  rw [hprep] at hrun ⊢
  have htext : text = (scan c.dialect .start 0 template.toList).1 := by simp [text, normalize]
  have hp : Plain c.dialect .start text := htext ▸ plain_scan (htext ▸ hu)
  have hsnd : marks.map Prod.snd = (normalize c.dialect template).origins := map_snd_recorded c.dialect .start _ 0
  -- the lexer finds the recorded question marks, in order
  have hq : ((Parameter.markers tokens).filter Marker.isQuestion).map Marker.location =
      (marks.map Prod.fst).map (Lexer.locate ⟨1, 1⟩ text) := by
    have hfst : (recorded c.dialect .start 0 0 text).map Prod.fst = marks.map Prod.fst := by
      rw [htext]
      exact map_fst_recorded_scan clean_start 0
    rw [← hfst]
    exact (questions_markersFrom none tokens).trans (questions_run hd hrun hp)
  have hlen : (Parameter.markers tokens).countP Marker.isQuestion = (normalize c.dialect template).origins.length := by
    have := congrArg List.length hq
    simpa [← hsnd, List.countP_eq_length_filter] using this
  refine ⟨?_, fun r hr => ?_⟩
  · rw [Parameter.resolve, if_pos (beq_iff_eq.2 hlen), number_questions _ _ _ hlen, hq, ← hsnd, List.map_map, List.map_map]
    exact List.zip_map'
  · have := (getElem?_recorded clean_start hr).2
    rwa [Nat.sub_zero, ← htext] at this

/-- Every question mark with a name stands where the scanner wrote a `?` for a placeholder of that name. -/
def WellNamed (c : Config) (template : String) : Prop :=
  ∀ ps, parameters c template = .ok ps → ∀ x ∈ ps, x.isQuestion = true → ∀ name, x.name = some name →
    ∃ i, (i, Origin.named name) ∈ recorded c.dialect .start 0 0 template.toList ∧
      (normalize c.dialect template).text.toList[i]? = some '?' ∧
      x.location = Lexer.locate ⟨1, 1⟩ (normalize c.dialect template).text.toList i

/-- Names are right wherever the two readers of the text have nothing to disagree about. -/
theorem wellNamed_of_uncontested (c : Config) (template : String) (hd : c.dialect ≠ .postgresql)
    (hn : c.namedPlaceholders = true)
    (hu : uncontested c.dialect .start 0 (normalize c.dialect template).text.toList = true) : WellNamed c template := by
  intro ps h x hx hq name hname
  obtain ⟨hlist, hmark⟩ := question_parameters hd hn hu h
  have hmem : (x.location, x.name) ∈ (ps.filter Parameter.isQuestion).map fun x => (x.location, x.name) :=
    List.mem_map.2 ⟨x, List.mem_filter.2 ⟨hx, hq⟩, rfl⟩
  rw [hlist] at hmem
  obtain ⟨⟨i, o⟩, hr, he⟩ := List.mem_map.1 hmem
  obtain ⟨hloc, ho⟩ := Prod.mk.inj he
  have ho' : o = .named name := by
    rw [hname] at ho
    cases o with
    | positional => cases ho
    | named n => cases ho; rfl
  exact ⟨i, ho' ▸ hr, hmark _ hr, hloc.symm⟩

/-- Literals, a doubled quote and a comment hide their `?` and `#` from both readers. -/
theorem wellNamed_quoted :
    (parameters ⟨.mysql, true⟩ "UPDATE t SET a = 'it''s ?', b = #\x7bu.b\x7d WHERE c = ? AND d = #\x7bd\x7d -- ?").toOption =
        some [⟨1, "?", some "u.b", ⟨1, 33⟩⟩, ⟨2, "?", none, ⟨1, 45⟩⟩, ⟨3, "?", some "d", ⟨1, 55⟩⟩] ∧
      WellNamed ⟨.mysql, true⟩ "UPDATE t SET a = 'it''s ?', b = #\x7bu.b\x7d WHERE c = ? AND d = #\x7bd\x7d -- ?" :=
  ⟨by decide +kernel, wellNamed_of_uncontested _ _ (by decide) rfl (by decide +kernel)⟩

/-- The backslash before a closing quote is an escape to the scanner and a character to the lexer: the scanner finds the
`#\x7ba\x7d` in what is a literal to the lexer, and misses the `?` that is none. -/
theorem not_wellNamed_backslash : ¬ WellNamed ⟨.generic, true⟩ "SELECT '\\', ?, '#\x7ba\x7d'" := by
  intro h
  have hps : (parameters ⟨.generic, true⟩ "SELECT '\\', ?, '#\x7ba\x7d'").toOption =
      some [⟨1, "?", some "a", ⟨1, 13⟩⟩] := by decide +kernel
  have hrec : recorded .generic .start 0 0 "SELECT '\\', ?, '#\x7ba\x7d'".toList = [(16, .named "a")] := by decide +kernel
  obtain ⟨i, hi, -, hl⟩ := h _ (eq_ok_of_toOption hps) _ List.mem_cons_self rfl "a" rfl
  rw [hrec] at hi
  obtain ⟨rfl, -⟩ := Prod.mk.inj (List.mem_singleton.1 hi)
  revert hl
  decide +kernel

end Template

end SqlTemplate
