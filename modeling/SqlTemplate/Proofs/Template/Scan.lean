/-
The template scanner as a run of steps, and the law that normalizing is idempotent: scanning the text
that a scan wrote copies it unchanged and records one positional origin for each origin recorded
before.

A step either copies what it reads or writes a `?` for a named placeholder. So the text written agrees
with the text read up to the first `?` written, and no lookahead of the scanner reaches past a `?`: a
delimiter, a doubled quote, the inner text of a placeholder hold none. This is the invariant by which
the second run takes the steps of the first.
-/
import SqlTemplate.Template.Origin
import Mathlib.Data.List.Basic
import Mathlib.Data.List.Infix
import Mathlib.Data.List.TakeWhile

namespace SqlTemplate.Template

/-! ## Runs as steps -/

theorem scan_skip (d : Dialect) (s : Scan) : ∀ (k : Nat) (cs : List Char), scan d s k cs = scan d s 0 (cs.drop k)
  | 0, cs => rfl
  | k + 1, [] => by simp [scan]
  | k + 1, c :: cs => by rw [scan, scan_skip d s k cs, List.drop_succ_cons]

/-- What is left to read after the step at `c`. -/
def after (d : Dialect) (s : Scan) (c : Char) (cs : List Char) : List Char := cs.drop ((step d s c cs).read - 1)

theorem after_length_le (d : Dialect) (s : Scan) (c : Char) (cs : List Char) : (after d s c cs).length ≤ cs.length := by
  unfold after; rw [List.length_drop]; omega

theorem scan_cons (d : Dialect) (s : Scan) (c : Char) (cs : List Char) :
    scan d s 0 (c :: cs) =
      ((step d s c cs).written ++ (scan d (step d s c cs).next 0 (after d s c cs)).1,
        (step d s c cs).origin.toList ++ (scan d (step d s c cs).next 0 (after d s c cs)).2) := by
  rw [scan, scan_skip]; rfl

/-- Induction along a run of the scanner. -/
theorem scan_induction {d : Dialect} {P : Scan → List Char → Prop} (nil : ∀ s, P s [])
    (cons : ∀ s c cs, P (step d s c cs).next (after d s c cs) → P s (c :: cs)) (s : Scan) (cs : List Char) :
    P s cs := by
  induction h : cs.length using Nat.strong_induction_on generalizing s cs with
  | _ n ih =>
    cases cs with
    | nil => exact nil s
    | cons c cs =>
      refine cons s c cs (ih _ ?_ _ _ rfl)
      have := after_length_le d s c cs
      simp only [List.length_cons] at h
      omega

/-! ## Lookahead -/

/-- The longest prefix whose elements pass a test is the whole list, or ends before one that fails. -/
theorem takeWhile_cases {α : Type} (p : α → Bool) (l : List α) :
    l.takeWhile p = l ∨ ∃ x rest, l = l.takeWhile p ++ x :: rest ∧ p x = false := by
  induction l with
  | nil => exact .inl rfl
  | cons a l ih =>
    by_cases ha : p a = true
    · rw [List.takeWhile_cons_of_pos ha]
      rcases ih with h | ⟨x, rest, h, hx⟩
      · exact .inl (by rw [h])
      · exact .inr ⟨x, rest, by rw [List.cons_append, ← h], hx⟩
    · exact .inr ⟨a, l, by simp [ha], by simpa using ha⟩

theorem takeWhile_append_cons {α : Type} {p : α → Bool} {l : List α} (hl : ∀ a ∈ l, p a = true) {x : α}
    (hx : p x = false) (rest : List α) : (l ++ x :: rest).takeWhile p = l := by
  rw [List.takeWhile_append_of_pos hl, List.takeWhile_cons_of_neg (by simp [hx]), List.append_nil]

theorem mem_takeWhile_ne {α : Type} [DecidableEq α] {x : α} {l : List α} : x ∉ l.takeWhile (· != x) :=
  fun h => by simpa using List.mem_takeWhile_imp h

/-- A text begins with a dollar delimiter if it begins with a tag between two dollar signs. -/
theorem dollarDelimiter?_eq_some_iff {cs delimiter : List Char} :
    dollarDelimiter? cs = some delimiter ↔
      ∃ tag rest, isTag tag = true ∧ '$' ∉ tag ∧ cs = '$' :: tag ++ '$' :: rest ∧ delimiter = '$' :: tag ++ ['$'] := by
  constructor
  · intro h
    unfold dollarDelimiter? at h
    split at h
    · rename_i body
      simp only [Bool.and_eq_true, decide_eq_true_eq] at h
      split at h
      · rename_i hb
        cases h
        rcases takeWhile_cases (· != '$') body with h0 | ⟨x, rest, h0, hx⟩
        · rw [h0] at hb; omega
        · simp only [bne_eq_false_iff_eq] at hx
          subst hx
          exact ⟨_, rest, hb.2, mem_takeWhile_ne, by rw [List.cons_append, ← h0], rfl⟩
      · cases h
    · cases h
  · rintro ⟨tag, rest, ht, hd, rfl, rfl⟩
    have htake : (tag ++ '$' :: rest).takeWhile (· != '$') = tag :=
      takeWhile_append_cons (by intro a ha; simp; rintro rfl; exact hd ha) (by simp) rest
    simp [dollarDelimiter?, htake, ht]

/-- A text begins with a named placeholder if it begins with braces that hold a name. -/
theorem placeholder?_eq_some_iff {cs : List Char} {name : String} {length : Nat} :
    placeholder? cs = some (name, length) ↔
      ∃ inner rest, (∀ c ∈ inner, endsInner c = false) ∧ cs = '#' :: '\x7b' :: inner ++ '\x7d' :: rest ∧
        innerName? inner = some name ∧ length = inner.length + 3 := by
  constructor
  · intro h
    unfold placeholder? at h
    split at h
    · rename_i body
      simp only at h
      split at h
      · rename_i rest hrest
        obtain ⟨name', hname, he⟩ := Option.map_eq_some_iff.1 h
        cases he
        refine ⟨body.takeWhile (!endsInner ·), rest, fun c hc => by simpa using List.mem_takeWhile_imp hc, ?_, hname, rfl⟩
        have h0 := List.prefix_iff_eq_append.1 (List.takeWhile_prefix (!endsInner ·) (l := body))
        rw [hrest] at h0
        rw [List.cons_append, List.cons_append, h0]
      · cases h
    · cases h
  · rintro ⟨inner, rest, hi, rfl, hn, rfl⟩
    have htake : (inner ++ '\x7d' :: rest).takeWhile (!endsInner ·) = inner :=
      takeWhile_append_cons (by intro a ha; simp [hi a ha]) (by simp [endsInner]) rest
    simp [placeholder?, htake, hn]

theorem not_mem_of_innerName? {inner : List Char} {name : String} (h : innerName? inner = some name) : '?' ∉ inner := by
  unfold innerName? at h
  simp only at h
  split at h
  · rename_i hc
    simp only [Bool.and_eq_true, Bool.not_eq_true'] at hc
    intro hm
    simp [hm] at hc
  · cases h

theorem tagChar_of_mem {tag : List Char} (h : isTag tag = true) {c : Char} (hc : c ∈ tag) :
    (Text.isAlnum c || c == '_') = true := by
  cases tag with
  | nil => cases hc
  | cons x tag =>
    simp only [isTag, Bool.and_eq_true, List.all_eq_true] at h
    rcases List.mem_cons.1 hc with rfl | hc
    · rcases Bool.or_eq_true_iff.1 h.1 with h | h <;> simp [Text.isAlnum, h]
    · exact h.2 c hc

theorem not_mem_of_isTag {tag : List Char} (h : isTag tag = true) : '?' ∉ tag :=
  fun hm => absurd (tagChar_of_mem h hm) (by decide)

/-! ## Steps -/

/-- The step copies the characters that it reads, at least one. -/
structure Step.Copies (st : Step) (cs : List Char) : Prop where
  written : st.written <+: cs
  read : st.read = st.written.length
  pos : 0 < st.read

theorem copy_copies (region : Region) (c : Char) (cs : List Char) : (copy region c).Copies (c :: cs) :=
  ⟨⟨cs, rfl⟩, rfl, Nat.one_pos⟩

theorem copyAll_copies {region : Region} {ws cs : List Char} {previous : Option Char} (h : ws <+: cs) (hw : ws ≠ []) :
    (copyAll region ws previous).Copies cs :=
  ⟨h, rfl, List.length_pos_iff.2 hw⟩

theorem pair_prefix_cons {c x : Char} {cs : List Char} (h : cs.head? = some x) : [c, x] <+: c :: cs := by
  obtain ⟨ys, rfl⟩ := List.head?_eq_some_iff.1 h
  exact ⟨ys, rfl⟩

/-- A quote that opens a region of the scanner. -/
def IsQuote (c : Char) : Prop := c = '\x27' ∨ c = '"' ∨ c = '\x60'

/-- The steps that the scanner can take in code. -/
inductive CodeStep (d : Dialect) (previous : Option Char) : Char → List Char → Step → Prop
  | quote {c : Char} {cs : List Char} : IsQuote c → CodeStep d previous c cs (copy (.quoted c) c)
  | lineComment {cs : List Char} : cs.head? = some '-' → CodeStep d previous '-' cs (copy .lineComment '-')
  | blockComment {cs : List Char} : cs.head? = some '*' →
      CodeStep d previous '/' cs (copyAll .blockComment ['/', '*'] previous)
  | question {cs : List Char} : CodeStep d previous '?' cs ⟨1, ['?'], some .positional, ⟨.code, some '?'⟩⟩
  | placeholder {cs : List Char} {name : String} {length : Nat} : placeholder? ('#' :: cs) = some (name, length) →
      CodeStep d previous '#' cs ⟨length, ['?'], some (.named name), ⟨.code, some '?'⟩⟩
  | hash {cs : List Char} : placeholder? ('#' :: cs) = none →
      CodeStep d previous '#' cs (copy (if d.hashComments then .lineComment else .code) '#')
  | dollarQuote {cs delimiter : List Char} : previous.any isWordChar = false →
      dollarDelimiter? ('$' :: cs) = some delimiter →
      CodeStep d previous '$' cs (copyAll (.dollarQuoted delimiter) delimiter (some '$'))
  | plain {c : Char} {cs : List Char} : ¬ IsQuote c → c ≠ '?' → c ≠ '#' → (c = '-' → cs.head? ≠ some '-') →
      (c = '/' → cs.head? ≠ some '*') →
      (c = '$' → previous.any isWordChar = false → dollarDelimiter? ('$' :: cs) = none) →
      CodeStep d previous c cs (copy .code c)

theorem CodeStep.eq {d : Dialect} {previous : Option Char} {c : Char} {cs : List Char} {st : Step}
    (h : CodeStep d previous c cs st) : stepCode d previous c cs = st := by
  cases h with
  | quote hq => rcases hq with rfl | rfl | rfl <;> rfl
  | lineComment h => simp [stepCode, h]
  | blockComment h => simp [stepCode, h]
  | question => rfl
  | placeholder h => simp [stepCode, h]
  | hash h => simp [stepCode, h]
  | dollarQuote hp h => simp [stepCode, hp, h]
  | plain hq h1 h2 h3 h4 h5 =>
    simp only [IsQuote, not_or] at hq
    unfold stepCode
    rw [if_neg (by simp [hq]), if_neg (by simpa using h3), if_neg (by simpa using h4), if_neg (by simpa using h1),
      if_neg (by simpa using h2)]
    split_ifs with h6
    · simp only [Bool.and_eq_true, beq_iff_eq, Bool.not_eq_true'] at h6
      obtain ⟨rfl, h6⟩ := h6
      rw [h5 rfl h6]
    · rfl

theorem stepCode_codeStep (d : Dialect) (previous : Option Char) (c : Char) (cs : List Char) :
    CodeStep d previous c cs (stepCode d previous c cs) := by
  suffices h : ∃ st, CodeStep d previous c cs st by
    obtain ⟨st, h⟩ := h
    rw [h.eq]
    exact h
  by_cases hq : IsQuote c
  · exact ⟨_, .quote hq⟩
  by_cases h1 : c = '?'
  · subst h1; exact ⟨_, .question⟩
  by_cases h2 : c = '#'
  · subst h2
    rcases hp : placeholder? ('#' :: cs) with _ | ⟨name, length⟩
    · exact ⟨_, .hash hp⟩
    · exact ⟨_, .placeholder hp⟩
  by_cases h3 : c = '-' ∧ cs.head? = some '-'
  · obtain ⟨rfl, h3⟩ := h3; exact ⟨_, .lineComment h3⟩
  by_cases h4 : c = '/' ∧ cs.head? = some '*'
  · obtain ⟨rfl, h4⟩ := h4; exact ⟨_, .blockComment h4⟩
  by_cases h5 : c = '$' ∧ previous.any isWordChar = false ∧ dollarDelimiter? ('$' :: cs) ≠ none
  · obtain ⟨rfl, hp, h5⟩ := h5
    obtain ⟨delimiter, hd⟩ := Option.ne_none_iff_exists'.1 h5
    exact ⟨_, .dollarQuote hp hd⟩
  · exact ⟨_, .plain hq h1 h2 (fun h h' => h3 ⟨h, h'⟩) (fun h h' => h4 ⟨h, h'⟩)
      (fun h hp => by by_contra hn; exact h5 ⟨h, hp, hn⟩)⟩

/-- The steps that the scanner can take. -/
inductive Moves (d : Dialect) : Scan → Char → List Char → Step → Prop
  | code {previous : Option Char} {c : Char} {cs : List Char} {st : Step} :
      CodeStep d previous c cs st → Moves d ⟨.code, previous⟩ c cs st
  | escape {previous : Option Char} {cs : List Char} :
      Moves d ⟨.quoted '\x27', previous⟩ '\\' cs (copyAll (.quoted '\x27') ('\\' :: cs.take 1) previous)
  | doubled {previous : Option Char} {close : Char} {cs : List Char} : cs.head? = some close →
      Moves d ⟨.quoted close, previous⟩ close cs (copyAll (.quoted close) [close, close] previous)
  | closing {previous : Option Char} {close : Char} {cs : List Char} : cs.head? ≠ some close →
      Moves d ⟨.quoted close, previous⟩ close cs (copy .code close)
  | inQuotes {previous : Option Char} {close c : Char} {cs : List Char} : c ≠ close →
      (close = '\x27' → c ≠ '\\') → Moves d ⟨.quoted close, previous⟩ c cs (copy (.quoted close) c)
  | dollarEnd {previous : Option Char} {delimiter : List Char} {c : Char} {cs : List Char} : delimiter <+: c :: cs →
      Moves d ⟨.dollarQuoted delimiter, previous⟩ c cs (copyAll .code delimiter (some '$'))
  | inDollars {previous : Option Char} {delimiter : List Char} {c : Char} {cs : List Char} : ¬ delimiter <+: c :: cs →
      Moves d ⟨.dollarQuoted delimiter, previous⟩ c cs (copy (.dollarQuoted delimiter) c)
  | lineEnd {previous : Option Char} {cs : List Char} : Moves d ⟨.lineComment, previous⟩ '\n' cs (copy .code '\n')
  | inLine {previous : Option Char} {c : Char} {cs : List Char} : c ≠ '\n' →
      Moves d ⟨.lineComment, previous⟩ c cs (copy .lineComment c)
  | blockEnd {previous : Option Char} {cs : List Char} : cs.head? = some '/' →
      Moves d ⟨.blockComment, previous⟩ '*' cs (copyAll .code ['*', '/'] (some '/'))
  | inBlock {previous : Option Char} {c : Char} {cs : List Char} : (c = '*' → cs.head? ≠ some '/') →
      Moves d ⟨.blockComment, previous⟩ c cs (copy .blockComment c)

theorem Moves.eq {d : Dialect} {s : Scan} {c : Char} {cs : List Char} {st : Step} (h : Moves d s c cs st) :
    step d s c cs = st := by
  cases h with
  | code h => exact h.eq
  | escape => rfl
  | doubled h => simp [step, stepQuoted, h]; rintro rfl h0; exact absurd h0 (by decide)
  | closing h => simp [step, stepQuoted, h]; rintro rfl h0; exact absurd h0 (by decide)
  | inQuotes h h' =>
    have : ¬ (c = '\\' ∧ _ = '\x27') := fun hc => h' hc.2 hc.1
    simp [step, stepQuoted, h, this]
  | dollarEnd h => simp [step, h]
  | inDollars h => simp [step, h]
  | lineEnd => rfl
  | inLine h => simp [step, h]
  | blockEnd h => simp [step, h]
  | inBlock h =>
    have : ¬ (c = '*' ∧ cs.head? = some '/') := fun hc => h hc.1 hc.2
    simp [step, this]

theorem step_moves (d : Dialect) (s : Scan) (c : Char) (cs : List Char) : Moves d s c cs (step d s c cs) := by
  suffices h : ∃ st, Moves d s c cs st by
    obtain ⟨st, h⟩ := h
    rw [h.eq]
    exact h
  obtain ⟨region, previous⟩ := s
  cases region with
  | code => exact ⟨_, .code (stepCode_codeStep d previous c cs)⟩
  | quoted close =>
    by_cases h1 : c = '\\' ∧ close = '\x27'
    · obtain ⟨rfl, rfl⟩ := h1; exact ⟨_, .escape⟩
    by_cases h2 : c = close
    · subst h2
      by_cases h3 : cs.head? = some c
      · exact ⟨_, .doubled h3⟩
      · exact ⟨_, .closing h3⟩
    · exact ⟨_, .inQuotes h2 (fun h h' => h1 ⟨h', h⟩)⟩
  | dollarQuoted delimiter =>
    by_cases h : delimiter <+: c :: cs
    · exact ⟨_, .dollarEnd h⟩
    · exact ⟨_, .inDollars h⟩
  | lineComment =>
    by_cases h : c = '\n'
    · subst h; exact ⟨_, .lineEnd⟩
    · exact ⟨_, .inLine h⟩
  | blockComment =>
    by_cases h : c = '*' ∧ cs.head? = some '/'
    · obtain ⟨rfl, h⟩ := h; exact ⟨_, .blockEnd h⟩
    · exact ⟨_, .inBlock (fun h1 h2 => h ⟨h1, h2⟩)⟩

/-! ## What a step writes -/

/-- The states that a run from the start can be in, so far as lookahead goes: no closing text holds a `?`. -/
def Scan.Clean (s : Scan) : Prop :=
  match s.region with
  | .quoted close => close ≠ '?'
  | .dollarQuoted delimiter => delimiter ≠ [] ∧ '?' ∉ delimiter
  | _ => True

theorem clean_start : Scan.start.Clean := trivial

theorem Moves.clean {d : Dialect} {s : Scan} {c : Char} {cs : List Char} {st : Step} (h : Moves d s c cs st)
    (hs : s.Clean) : st.next.Clean := by
  cases h with
  | code h =>
    cases h with
    | quote hq => rcases hq with rfl | rfl | rfl <;> exact fun h => absurd h (by decide)
    | hash => unfold copy Scan.Clean; split_ifs <;> trivial
    | dollarQuote _ hd =>
      obtain ⟨tag, rest, ht, -, -, rfl⟩ := dollarDelimiter?_eq_some_iff.1 hd
      exact ⟨by simp, by simpa using not_mem_of_isTag ht⟩
    | _ => trivial
  | escape => exact hs
  | doubled => exact hs
  | inQuotes => exact hs
  | inDollars => exact hs
  | _ => trivial

/-- A step copies what it reads and records a `?` in code, or it writes a `?` for a named placeholder. -/
theorem Moves.copies_or_replaces {d : Dialect} {s : Scan} {c : Char} {cs : List Char} {st : Step}
    (h : Moves d s c cs st) (hs : s.Clean) :
    (st.Copies (c :: cs) ∧ st.origin = if s.region = .code ∧ c = '?' then some .positional else none) ∨
      s.region = .code ∧ ∃ name length, placeholder? (c :: cs) = some (name, length) ∧
        st = ⟨length, ['?'], some (.named name), ⟨.code, some '?'⟩⟩ := by
  cases h with
  | code h =>
    cases h with
    | quote hq =>
      refine .inl ⟨copy_copies _ c cs, ?_⟩
      rcases hq with rfl | rfl | rfl <;> rfl
    | lineComment => exact .inl ⟨copy_copies _ _ cs, rfl⟩
    | blockComment h => exact .inl ⟨copyAll_copies (pair_prefix_cons h) (by simp), rfl⟩
    | question => exact .inl ⟨⟨⟨cs, rfl⟩, rfl, Nat.one_pos⟩, rfl⟩
    | placeholder h => exact .inr ⟨rfl, _, _, h, rfl⟩
    | hash => exact .inl ⟨copy_copies _ _ cs, rfl⟩
    | dollarQuote _ h =>
      obtain ⟨tag, rest, -, -, he, rfl⟩ := dollarDelimiter?_eq_some_iff.1 h
      exact .inl ⟨copyAll_copies ⟨rest, by rw [he]; simp⟩ (by simp), rfl⟩
    | plain _ h1 => exact .inl ⟨copy_copies _ c cs, by simp [copy, h1]⟩
  | escape => exact .inl ⟨copyAll_copies ⟨cs.drop 1, by rw [List.cons_append, List.take_append_drop]⟩ (by simp), rfl⟩
  | doubled h => exact .inl ⟨copyAll_copies (pair_prefix_cons h) (by simp), rfl⟩
  | closing => exact .inl ⟨copy_copies _ _ cs, rfl⟩
  | inQuotes => exact .inl ⟨copy_copies _ c cs, rfl⟩
  | dollarEnd h => exact .inl ⟨copyAll_copies h hs.1, rfl⟩
  | inDollars => exact .inl ⟨copy_copies _ c cs, rfl⟩
  | lineEnd => exact .inl ⟨copy_copies _ _ cs, rfl⟩
  | inLine => exact .inl ⟨copy_copies _ c cs, rfl⟩
  | blockEnd h => exact .inl ⟨copyAll_copies (pair_prefix_cons h) (by simp), rfl⟩
  | inBlock => exact .inl ⟨copy_copies _ c cs, rfl⟩

theorem Step.Copies.append_after {d : Dialect} {s : Scan} {c : Char} {cs : List Char}
    (h : (step d s c cs).Copies (c :: cs)) : (step d s c cs).written ++ after d s c cs = c :: cs := by
  have hd : after d s c cs = (c :: cs).drop (step d s c cs).written.length := by
    unfold after
    rw [h.read]
    have := h.pos
    rw [h.read] at this
    obtain ⟨k, hk⟩ := Nat.exists_eq_succ_of_ne_zero (Nat.pos_iff_ne_zero.1 this)
    rw [hk]; simp
  rw [hd]
  exact List.prefix_iff_eq_append.1 h.written

/-! ## The text written against the text read -/

/-- Up to the first `?` written, a run writes what it reads. -/
theorem prefix_of_scan {d : Dialect} {w : List Char} {s : Scan} {cs : List Char} (hs : s.Clean) (hw : '?' ∉ w)
    (h : w <+: (scan d s 0 cs).1) : w <+: cs := by
  induction s, cs using scan_induction (d := d) generalizing w with
  | nil s => simpa [scan] using h
  | cons s c cs ih =>
    rw [scan_cons] at h
    have hm := step_moves d s c cs
    rcases hm.copies_or_replaces hs with ⟨hc, -⟩ | ⟨-, name, length, -, he⟩
    · rw [← hc.append_after]
      rcases List.prefix_or_prefix_of_prefix h (List.prefix_append _ _) with h' | ⟨w', rfl⟩
      · exact h'.trans (List.prefix_append _ _)
      · have hw' : '?' ∉ w' := fun hm => hw (List.mem_append_right _ hm)
        exact (List.prefix_append_right_inj _).2 (ih (hm.clean hs) hw' ((List.prefix_append_right_inj _).1 h))
    · rw [he] at h
      cases w with
      | nil => exact List.nil_prefix
      | cons x w =>
        obtain ⟨rfl, -⟩ := List.cons_prefix_cons.1 h
        exact absurd List.mem_cons_self hw

theorem head_scan {d : Dialect} {s : Scan} {c : Char} {cs : List Char} (hs : s.Clean) (hc : c ≠ '#') :
    (scan d s 0 (c :: cs)).1.head? = some c := by
  rw [scan_cons]
  rcases (step_moves d s c cs).copies_or_replaces hs with ⟨h, -⟩ | ⟨-, name, length, hp, -⟩
  · have hw := h.written
    have hp := h.pos
    rw [h.read] at hp
    cases hst : (step d s c cs).written with
    | nil => rw [hst] at hp; simp at hp
    | cons x xs =>
      rw [hst] at hw
      obtain ⟨rfl, -⟩ := List.cons_prefix_cons.1 hw
      rfl
  · obtain ⟨inner, rest, -, he, -⟩ := placeholder?_eq_some_iff.1 hp
    simp only [List.cons_append, List.cons.injEq] at he
    exact absurd he.1 hc

/-- A lookahead that fails on the text read also fails on the text written. -/
theorem head_scan_ne {d : Dialect} {s : Scan} {cs : List Char} {x : Char} (hs : s.Clean) (hx : x ≠ '?')
    (h : cs.head? ≠ some x) : (scan d s 0 cs).1.head? ≠ some x := by
  intro h'
  obtain ⟨ys, hy⟩ := List.head?_eq_some_iff.1 h'
  have hp : [x] <+: cs := prefix_of_scan (d := d) hs (by simpa using hx.symm) ⟨ys, by rw [hy]; rfl⟩
  obtain ⟨zs, rfl⟩ := hp
  exact h rfl

theorem placeholder?_scan {d : Dialect} {s : Scan} {cs : List Char} (hs : s.Clean) (h : placeholder? ('#' :: cs) = none) :
    placeholder? ('#' :: (scan d s 0 cs).1) = none := by
  rw [Option.eq_none_iff_forall_ne_some]
  rintro ⟨name, length⟩ h'
  obtain ⟨inner, rest, hi, he, hn, rfl⟩ := placeholder?_eq_some_iff.1 h'
  have hq := not_mem_of_innerName? hn
  simp only [List.cons_append, List.cons.injEq, true_and] at he
  obtain ⟨rest', hr⟩ : '\x7b' :: inner ++ ['\x7d'] <+: cs :=
    prefix_of_scan (d := d) hs (by simp [hq]) ⟨rest, by rw [he]; simp⟩
  rw [placeholder?_eq_some_iff.2 ⟨inner, rest', hi, by rw [← hr]; simp, hn, rfl⟩] at h
  cases h

theorem dollarDelimiter?_scan {d : Dialect} {s : Scan} {cs : List Char} (hs : s.Clean)
    (h : dollarDelimiter? ('$' :: cs) = none) : dollarDelimiter? ('$' :: (scan d s 0 cs).1) = none := by
  rw [Option.eq_none_iff_forall_ne_some]
  intro delimiter h'
  obtain ⟨tag, rest, ht, hd, he, rfl⟩ := dollarDelimiter?_eq_some_iff.1 h'
  simp only [List.cons_append, List.cons.injEq, true_and] at he
  obtain ⟨rest', hr⟩ : tag ++ ['$'] <+: cs :=
    prefix_of_scan (d := d) hs (by simp [not_mem_of_isTag ht]) ⟨rest, by rw [he]; simp⟩
  rw [dollarDelimiter?_eq_some_iff.2 ⟨tag, rest', ht, hd, by rw [← hr]; simp, rfl⟩] at h
  cases h

/-! ## The second run -/

/-- The step that a second run takes at the text that the step `st` wrote. -/
def Step.again (st : Step) : Step := ⟨st.written.length, st.written, st.origin.map fun _ => .positional, st.next⟩

/-- Over the text that a run wrote, the scanner takes the steps of that run again. -/
theorem Moves.again {d : Dialect} {s : Scan} {c : Char} {cs out : List Char} {st : Step} (h : Moves d s c cs st)
    (hs : s.Clean) (ho : out = (scan d st.next 0 (cs.drop (st.read - 1))).1) :
    ∃ x ws, st.written = x :: ws ∧ Moves d s x (ws ++ out) st.again := by
  have hn := h.clean hs
  cases h with
  | code h =>
    cases h with
    | quote hq => exact ⟨c, [], rfl, .code (.quote hq)⟩
    | lineComment h =>
      obtain ⟨ys, rfl⟩ := List.head?_eq_some_iff.1 h
      refine ⟨'-', [], rfl, .code (.lineComment ?_)⟩
      rw [ho]
      exact head_scan hn (by decide)
    | blockComment h => exact ⟨'/', ['*'], rfl, .code (.blockComment rfl)⟩
    | question => exact ⟨'?', [], rfl, .code .question⟩
    | placeholder h => exact ⟨'?', [], rfl, .code .question⟩
    | hash h =>
      refine ⟨'#', [], rfl, .code (.hash ?_)⟩
      rw [ho]
      exact placeholder?_scan hn h
    | dollarQuote hp h =>
      obtain ⟨tag, rest, ht, hd, -, rfl⟩ := dollarDelimiter?_eq_some_iff.1 h
      refine ⟨'$', tag ++ ['$'], rfl, .code (.dollarQuote hp ?_)⟩
      exact dollarDelimiter?_eq_some_iff.2 ⟨tag, out, ht, hd, by simp, rfl⟩
    | plain hq h1 h2 h3 h4 h5 =>
      refine ⟨c, [], rfl, .code (.plain hq h1 h2 (fun hc => ?_) (fun hc => ?_) (fun hc hp => ?_))⟩ <;> rw [ho]
      · exact head_scan_ne hn (by decide) (h3 hc)
      · exact head_scan_ne hn (by decide) (h4 hc)
      · exact dollarDelimiter?_scan hn (h5 hc hp)
  | escape =>
    refine ⟨'\\', cs.take 1, rfl, ?_⟩
    have ht : (cs.take 1 ++ out).take 1 = cs.take 1 := by
      cases cs with
      | nil => rw [ho]; simp [scan, copyAll]
      | cons x xs => simp
    rename_i previous
    have he := @Moves.escape d previous (cs.take 1 ++ out)
    rw [ht] at he
    exact he
  | doubled h => exact ⟨_, [_], rfl, .doubled rfl⟩
  | closing h =>
    refine ⟨c, [], rfl, .closing ?_⟩
    rw [ho]
    exact head_scan_ne hn hs h
  | inQuotes h h' => exact ⟨c, [], rfl, .inQuotes h h'⟩
  | dollarEnd h =>
    rename_i delimiter
    obtain ⟨x, ws, rfl⟩ := List.exists_cons_of_ne_nil hs.1
    exact ⟨x, ws, rfl, .dollarEnd ⟨out, rfl⟩⟩
  | inDollars h =>
    refine ⟨c, [], rfl, .inDollars fun h' => h ?_⟩
    rename_i delimiter
    obtain ⟨x, ws, rfl⟩ := List.exists_cons_of_ne_nil hs.1
    rw [List.nil_append, ho] at h'
    obtain ⟨rfl, h'⟩ := List.cons_prefix_cons.1 h'
    exact List.cons_prefix_cons.2 ⟨rfl, prefix_of_scan hn (fun hm => hs.2 (List.mem_cons_of_mem _ hm)) h'⟩
  | lineEnd => exact ⟨'\n', [], rfl, .lineEnd⟩
  | inLine h => exact ⟨c, [], rfl, .inLine h⟩
  | blockEnd h => exact ⟨'*', ['/'], rfl, .blockEnd rfl⟩
  | inBlock h =>
    refine ⟨c, [], rfl, .inBlock fun hc => ?_⟩
    rw [ho]
    exact head_scan_ne hn (by decide) (h hc)

/-- The text that a run wrote, split at its first step: the second run takes that step again and is left with what
the rest of the run wrote. -/
theorem second_step (d : Dialect) {s : Scan} (hs : s.Clean) (c : Char) (cs : List Char) :
    ∃ x ws, (step d s c cs).written = x :: ws ∧
      step d s x (ws ++ (scan d (step d s c cs).next 0 (after d s c cs)).1) = (step d s c cs).again ∧
      after d s x (ws ++ (scan d (step d s c cs).next 0 (after d s c cs)).1) =
        (scan d (step d s c cs).next 0 (after d s c cs)).1 := by
  obtain ⟨x, ws, hw, h⟩ := (step_moves d s c cs).again hs rfl
  have hstep : step d s x (ws ++ (scan d (step d s c cs).next 0 (after d s c cs)).1) = (step d s c cs).again := h.eq
  refine ⟨x, ws, hw, hstep, ?_⟩
  rw [after, hstep]
  simp [Step.again, hw]

/-- A run over the text that a run wrote copies it and records a positional origin for each origin before. -/
theorem scan_scan {d : Dialect} {s : Scan} {cs : List Char} (hs : s.Clean) :
    scan d s 0 (scan d s 0 cs).1 = ((scan d s 0 cs).1, (scan d s 0 cs).2.map fun _ => .positional) := by
  induction s, cs using scan_induction (d := d) with
  | nil s => rfl
  | cons s c cs ih =>
    obtain ⟨x, ws, hw, hstep, hafter⟩ := second_step d hs c cs
    have ih := ih ((step_moves d s c cs).clean hs)
    rw [scan_cons d s c cs, hw, List.cons_append, scan_cons, hafter, hstep]
    simp only [Step.again, ih, hw, List.cons_append, List.map_append]
    cases (step d s c cs).origin <;> rfl

/-- Normalizing twice is normalizing once: the text stays, and each of its origins is a `?` that was there. -/
theorem normalize_normalize (d : Dialect) (template : String) :
    normalize d (normalize d template).text =
      ⟨(normalize d template).text, List.replicate (normalize d template).origins.length .positional⟩ := by
  have h := @scan_scan d .start template.toList clean_start
  simp [normalize, h, List.map_const']

end SqlTemplate.Template
