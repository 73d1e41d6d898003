/-
Places in a text that the template scanner and the lexer of a dialect need not read alike. The scanner
knows little of a dialect's lexical rules; where they differ, `contested` says so, and a text in which the
scanner meets no such place is `Plain`.

`Reaches` says what the scanner does over a piece of plain text: it gets from one state to another and
records a `?` at certain offsets. Pieces compose, which is how the tokens of a lexer are put together.
-/
import SqlTemplate.Proofs.Template.Scan
import SqlTemplate.Token.Lexer

namespace SqlTemplate.Template

/-! ## What the scanner records, and where -/

/-- The origins that a run records, each with the offset of its `?` in the text written, of which `offset` characters
are already there. -/
def recorded (d : Dialect) (s : Scan) (skip offset : Nat) : List Char → List (Nat × Origin)
  | [] => []
  | c :: cs =>
    match skip with
    | k + 1 => recorded d s k offset cs
    | 0 =>
      let st := step d s c cs
      st.origin.toList.map (offset, ·) ++ recorded d st.next (st.read - 1) (offset + st.written.length) cs

theorem recorded_skip (d : Dialect) (s : Scan) (i : Nat) :
    ∀ (k : Nat) (cs : List Char), recorded d s k i cs = recorded d s 0 i (cs.drop k)
  | 0, cs => rfl
  | k + 1, [] => by simp [recorded]
  | k + 1, c :: cs => by rw [recorded, recorded_skip d s i k cs, List.drop_succ_cons]

theorem recorded_cons (d : Dialect) (s : Scan) (i : Nat) (c : Char) (cs : List Char) :
    recorded d s 0 i (c :: cs) = (step d s c cs).origin.toList.map (i, ·) ++
      recorded d (step d s c cs).next 0 (i + (step d s c cs).written.length) (after d s c cs) := by
  rw [recorded, recorded_skip]; rfl

/-- What is recorded are the origins of the run. -/
theorem map_snd_recorded (d : Dialect) (s : Scan) (cs : List Char) (i : Nat) :
    (recorded d s 0 i cs).map Prod.snd = (scan d s 0 cs).2 := by
  induction s, cs using scan_induction (d := d) generalizing i with
  | nil s => rfl
  | cons s c cs ih => rw [recorded_cons, scan_cons, List.map_append, ih]; simp [Function.comp_def]

/-- At a recorded offset the text written has a `?`. -/
theorem getElem?_recorded {d : Dialect} {s : Scan} {cs : List Char} (hs : s.Clean) {i : Nat} {r : Nat × Origin}
    (h : r ∈ recorded d s 0 i cs) : i ≤ r.1 ∧ (scan d s 0 cs).1[r.1 - i]? = some '?' := by
  induction s, cs using scan_induction (d := d) generalizing i with
  | nil s => cases h
  | cons s c cs ih =>
    have hm := step_moves d s c cs
    rw [recorded_cons, List.mem_append] at h
    rw [scan_cons]
    rcases h with h | h
    · obtain ⟨o, ho, rfl⟩ := List.mem_map.1 h
      refine ⟨Nat.le_refl _, ?_⟩
      simp only [Nat.sub_self]
      rcases hm.copies_or_replaces hs with ⟨hc, he⟩ | ⟨-, name, length, -, he⟩
      · rw [he] at ho
        split_ifs at ho with hq
        · obtain ⟨x, ws, hw, -⟩ := second_step d hs c cs
          have := hc.written
          rw [hw] at this ⊢
          obtain ⟨rfl, -⟩ := List.cons_prefix_cons.1 this
          rw [← hq.2]; rfl
        · cases ho
      · rw [he]; rfl
    · obtain ⟨h1, h2⟩ := ih (hm.clean hs) h
      refine ⟨by omega, ?_⟩
      rw [List.getElem?_append_right (by omega), Nat.sub_sub]
      exact h2

/-- A run over the text that a run wrote records at the same offsets. -/
theorem map_fst_recorded_scan {d : Dialect} {s : Scan} {cs : List Char} (hs : s.Clean) (i : Nat) :
    (recorded d s 0 i (scan d s 0 cs).1).map Prod.fst = (recorded d s 0 i cs).map Prod.fst := by
  induction s, cs using scan_induction (d := d) generalizing i with
  | nil s => rfl
  | cons s c cs ih =>
    obtain ⟨x, ws, hw, hstep, hafter⟩ := second_step d hs c cs
    have ih := ih ((step_moves d s c cs).clean hs) (i + (step d s c cs).written.length)
    rw [scan_cons, recorded_cons d s i c cs, hw, List.cons_append, recorded_cons, hafter, hstep]
    rw [hw] at ih
    simp only [Step.again, List.map_append, hw, ih]
    cases (step d s c cs).origin <;> rfl

/-! ## Characters that pass -/

section Passing

variable {d : Dialect} {c : Char}

/-- Characters that the scanner copies in code, `next` being the character after. -/
def passes (d : Dialect) (c : Char) (next : Option Char) : Bool :=
  !(['\x27', '"', '\x60', '?'].contains c) && !(c == '#' && d == .mysql) && !(c == '-' && next == some '-') &&
    !(c == '/' && next == some '*')

/-- A text that the scanner copies in code character by character, `rest` being what follows. -/
def passesAll (d : Dialect) : List Char → List Char → Bool
  | [], _ => true
  | c :: ws, rest => passes d c (ws ++ rest).head? && passesAll d ws rest

theorem passesAll_append (xs ys rest : List Char) :
    passesAll d (xs ++ ys) rest = (passesAll d xs (ys ++ rest) && passesAll d ys rest) := by
  induction xs with
  | nil => rfl
  | cons x xs ih => simp [passesAll, ih, Bool.and_assoc]

/-- Characters that pass whatever follows them. -/
def inert (d : Dialect) (c : Char) : Bool :=
  !(['\x27', '"', '\x60', '?', '-', '/'].contains c) && !(c == '#' && d == .mysql)

theorem passes_of_inert {next : Option Char} (h : inert d c = true) : passes d c next = true := by
  simp only [inert, Bool.and_eq_true, Bool.not_eq_true', List.contains_eq_mem, decide_eq_false_iff_not, List.mem_cons,
    List.not_mem_nil, or_false, not_or] at h
  simp [passes, h]

theorem passesAll_of_inert {ws : List Char} (rest : List Char) (h : ∀ c ∈ ws, inert d c = true) :
    passesAll d ws rest = true := by
  induction ws with
  | nil => rfl
  | cons c ws ih =>
    simp only [passesAll, Bool.and_eq_true]
    exact ⟨passes_of_inert (h c List.mem_cons_self), ih fun x hx => h x (List.mem_cons_of_mem _ hx)⟩

end Passing

/-! ## Contested places -/

/-- A tag and a dollar sign, which after a dollar sign make a delimiter for one reader or the other. -/
def opensDollar (cs : List Char) : Bool := (cs.dropWhile fun c => Text.isAlnum c || c == '_').head? == some '$'

/-- Places in code that a lexer need not read as the scanner does: `c`, followed by `cs`. -/
def contestedCode (d : Dialect) (c : Char) (cs : List Char) : Bool :=
  let next (xs : List Char) := cs.head?.any xs.contains
  match c with
  -- quotes that only one of the two knows
  | '\x60' => d == .mssql
  | '[' =>
    (d == .sqlite || d == .mssql) &&
      (Lexer.quotedBody ']' .plain cs).any fun r => !passesAll d (cs.take r.2) (cs.drop r.2)
  | 'b' | 'B' =>
    d == .mysql && next ['\x27'] && (Lexer.quotedBody '\x27' .plain (cs.drop 1)).any fun r => r.1.contains '\\'
  | 'r' | 'R' => d == .generic && next ['\x27', '"']
  | '$' => opensDollar cs
  -- comments that only one of the two begins
  | '-' => d == .mysql && next ['-'] && cs[1]? != some ' '
  | '/' => d == .generic && cs.take 2 == ['/', '*']
  | '|' => cs.take 2 == ['/', '*']
  -- characters that a lexer takes along with the one after them
  | '#' => d != .mysql && next ['\x27', '"', '\x60', '?', '-', '/']
  | '@' => next ['?', '-', '/', '#'] || (next ['@'] && cs[1]?.any ['\x27', '"', '\x60'].contains)
  | _ => false

/-- Places that a lexer need not read as the scanner does: in code, a backslash that escapes the closing
quote for one of the two only, and a comment inside a comment. -/
def contested (d : Dialect) (s : Scan) (c : Char) (cs : List Char) : Bool :=
  match s.region with
  | .code => contestedCode d c cs
  | .quoted close =>
    c == '\\' && cs.head? == some close && ((close == '\x27' && d != .mysql) || (close == '"' && d == .mysql))
  | .blockComment => Lexer.nestsComments d && c == '/' && cs.head? == some '*'
  | _ => false

/-- Whether the scanner meets no contested place from state `s` on; `skip` characters are already read. -/
def uncontested (d : Dialect) (s : Scan) (skip : Nat) : List Char → Bool
  | [] => true
  | c :: cs =>
    match skip with
    | k + 1 => uncontested d s k cs
    | 0 =>
      let st := step d s c cs
      !contested d s c cs && uncontested d st.next (st.read - 1) cs

theorem uncontested_skip (d : Dialect) (s : Scan) :
    ∀ (k : Nat) (cs : List Char), uncontested d s k cs = uncontested d s 0 (cs.drop k)
  | 0, cs => rfl
  | k + 1, [] => by simp [uncontested]
  | k + 1, c :: cs => by rw [uncontested, uncontested_skip d s k cs, List.drop_succ_cons]

/-- A text that the scanner, from state `s` on, copies without meeting a contested place. -/
structure Plain (d : Dialect) (s : Scan) (cs : List Char) : Prop where
  uncontested : uncontested d s 0 cs = true
  unnamed : ∀ o ∈ (scan d s 0 cs).2, o = .positional

/-- The scanner gets from state `s` to state `t` over the first `n` characters of `cs` and records a `?` at the
offsets `marks`. -/
structure Reaches (d : Dialect) (s : Scan) (cs : List Char) (n : Nat) (marks : List Nat) (t : Scan) : Prop where
  plain : Plain d t (cs.drop n)
  offsets : ∀ i, (recorded d s 0 i cs).map Prod.fst =
    marks.map (i + ·) ++ (recorded d t 0 (i + n) (cs.drop n)).map Prod.fst

theorem Reaches.refl {d : Dialect} {s : Scan} {cs : List Char} (h : Plain d s cs) : Reaches d s cs 0 [] s :=
  ⟨h, fun _ => rfl⟩

theorem Reaches.trans {d : Dialect} {s t u : Scan} {cs : List Char} {n m : Nat} {xs ys : List Nat}
    (h : Reaches d s cs n xs t) (h' : Reaches d t (cs.drop n) m ys u) :
    Reaches d s cs (n + m) (xs ++ ys.map (n + ·)) u := by
  refine ⟨by simpa using h'.plain, fun i => ?_⟩
  rw [h.offsets, h'.offsets]
  simp [Function.comp_def, Nat.add_assoc]

/-- One step over plain text: it copies, at a place that is not contested. -/
theorem Plain.step {d : Dialect} {s : Scan} {c : Char} {cs : List Char} {st : Step} (h : Plain d s (c :: cs))
    (hs : s.Clean) (hm : Moves d s c cs st) :
    contested d s c cs = false ∧ Reaches d s (c :: cs) st.read (st.origin.toList.map fun _ => 0) st.next := by
  obtain rfl := hm.eq
  obtain ⟨hu, hn⟩ := h
  rw [Template.uncontested, uncontested_skip] at hu
  simp only [Bool.and_eq_true, Bool.not_eq_true'] at hu
  rw [scan_cons] at hn
  have hc : (Template.step d s c cs).Copies (c :: cs) := by
    rcases hm.copies_or_replaces hs with ⟨hc, -⟩ | ⟨-, name, length, -, he⟩
    · exact hc
    · have := hn (.named name) (by simp [he])
      cases this
  have hd : (c :: cs).drop (Template.step d s c cs).read = after d s c cs := by
    obtain ⟨k, hk⟩ := Nat.exists_eq_succ_of_ne_zero (Nat.pos_iff_ne_zero.1 hc.pos)
    rw [after, hk]; simp
  refine ⟨hu.1, ⟨?_, fun o ho => hn o ?_⟩, fun i => ?_⟩
  · rw [hd]; exact hu.2
  · rw [hd] at ho; exact List.mem_append_right _ ho
  · rw [hd, recorded_cons, List.map_append, hc.read]
    simp [Function.comp_def]

/-- The scanner gets from state `s` to code over the first `n` characters of `cs`, and records a `?` at the offsets
`marks`. -/
def Returns (d : Dialect) (s : Scan) (cs : List Char) (n : Nat) (marks : List Nat) : Prop :=
  ∃ p, Reaches d s cs n marks ⟨.code, p⟩

theorem Reaches.returns {d : Dialect} {s t : Scan} {cs : List Char} {n m : Nat} {xs ys : List Nat}
    (h : Reaches d s cs n xs t) (h' : Returns d t (cs.drop n) m ys) : Returns d s cs (n + m) (xs ++ ys.map (n + ·)) := by
  obtain ⟨p, h'⟩ := h'
  exact ⟨p, h.trans h'⟩

end SqlTemplate.Template
