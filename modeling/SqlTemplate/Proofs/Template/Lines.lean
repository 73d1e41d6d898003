/-
Templates read line by line. Where a line of a template ends in code, the text after it is normalized as
if it stood alone.

The scanner carries two things over the end of a line: its state and a lookahead of any length. The
state is that of a start, since a newline is no word character. The lookahead never crosses the line:
every text that the scanner looks for (a marker of two characters, a placeholder, a dollar delimiter, the
end of a region) is on one line, so a step at a text that ends in a newline stays the same step when more
text follows.
-/
import SqlTemplate.Proofs.Template.Scan

namespace SqlTemplate.Template

/-! ## Lookahead at the end of a line -/

section Lookahead

variable {cs : List Char}

theorem prefix_of_append {w : List Char} (hlast : cs.getLast? = some '\n') (hw : '\n' ∉ w) {bs : List Char}
    (h : w <+: cs ++ bs) : w <+: cs := by
  rcases List.prefix_or_prefix_of_prefix h (List.prefix_append cs bs) with h' | h'
  · exact h'
  · exact absurd (h'.subset (List.mem_of_getLast? hlast)) hw

/-- The character after one that is no newline. -/
theorem head?_append {c : Char} (hlast : (c :: cs).getLast? = some '\n') (hc : c ≠ '\n') (bs : List Char) :
    (cs ++ bs).head? = cs.head? := by
  cases cs with
  | nil => exact absurd (Option.some.inj hlast) hc
  | cons x xs => rfl

theorem not_mem_newline_of_isTag {tag : List Char} (h : isTag tag = true) : '\n' ∉ tag :=
  fun hm => absurd (tagChar_of_mem h hm) (by decide)

theorem dollarDelimiter?_append (hlast : cs.getLast? = some '\n') (bs : List Char) :
    dollarDelimiter? (cs ++ bs) = dollarDelimiter? cs := by
  ext delimiter
  simp only [dollarDelimiter?_eq_some_iff]
  constructor
  · rintro ⟨tag, rest, htag, hmem, heq, rfl⟩
    have hnew := not_mem_newline_of_isTag htag
    obtain ⟨rest', hrest⟩ : '$' :: tag ++ ['$'] <+: cs :=
      prefix_of_append hlast (by simp [hnew]) ⟨rest, by rw [heq]; simp⟩
    exact ⟨tag, rest', htag, hmem, by rw [← hrest]; simp, rfl⟩
  · rintro ⟨tag, rest, htag, hmem, rfl, rfl⟩
    exact ⟨tag, rest ++ bs, htag, hmem, by simp, rfl⟩

theorem placeholder?_append (hlast : cs.getLast? = some '\n') (bs : List Char) :
    placeholder? (cs ++ bs) = placeholder? cs := by
  ext ⟨name, length⟩
  simp only [placeholder?_eq_some_iff]
  constructor
  · rintro ⟨inner, rest, hinner, heq, hname, rfl⟩
    have hnew : '\n' ∉ inner := fun hm => absurd (hinner _ hm) (by decide)
    obtain ⟨rest', hrest⟩ : '#' :: '\x7b' :: inner ++ ['\x7d'] <+: cs :=
      prefix_of_append hlast (by simp [hnew]) ⟨rest, by rw [heq]; simp⟩
    exact ⟨inner, rest', hinner, by rw [← hrest]; simp, hname, rfl⟩
  · rintro ⟨inner, rest, hinner, rfl, hname, rfl⟩
    exact ⟨inner, rest ++ bs, hinner, by simp, hname, rfl⟩

end Lookahead

/-! ## Steps before the end of a line -/

/-- The states that a run from the start can be in: the closing text of the region is on one line. -/
def Scan.OneLine (s : Scan) : Prop :=
  match s.region with
  | .quoted close => close ≠ '\n'
  | .dollarQuoted delimiter => '\n' ∉ delimiter
  | _ => True

theorem oneLine_start : Scan.start.OneLine := trivial

section Steps

variable {d : Dialect} {s : Scan} {c : Char} {cs : List Char} {st : Step}

theorem Moves.oneLine (h : Moves d s c cs st) (hs : s.OneLine) : st.next.OneLine := by
  cases h with
  | code h =>
    cases h with
    | quote hq => rcases hq with rfl | rfl | rfl <;> exact fun h => absurd h (by decide)
    | hash => unfold copy Scan.OneLine; split_ifs <;> trivial
    | dollarQuote _ hd =>
      obtain ⟨tag, rest, ht, -, -, rfl⟩ := dollarDelimiter?_eq_some_iff.1 hd
      show '\n' ∉ '$' :: tag ++ ['$']
      simp [not_mem_newline_of_isTag ht]
    | _ => trivial
  | escape => exact hs
  | doubled => exact hs
  | inQuotes => exact hs
  | inDollars => exact hs
  | _ => trivial

theorem CodeStep.extend {previous : Option Char} (h : CodeStep d previous c cs st)
    (hlast : (c :: cs).getLast? = some '\n') (bs : List Char) : CodeStep d previous c (cs ++ bs) st := by
  have hplaceholder := placeholder?_append hlast bs
  have hdelimiter := dollarDelimiter?_append hlast bs
  cases h with
  | quote hq => exact .quote hq
  | lineComment h => exact .lineComment ((head?_append hlast (by decide) bs).trans h)
  | blockComment h => exact .blockComment ((head?_append hlast (by decide) bs).trans h)
  | question => exact .question
  | placeholder h => exact .placeholder (hplaceholder.trans h)
  | hash h => exact .hash (hplaceholder.trans h)
  | dollarQuote hp h => exact .dollarQuote hp (hdelimiter.trans h)
  | plain hq h1 h2 h3 h4 h5 =>
    refine .plain hq h1 h2 (fun hc => ?_) (fun hc => ?_) (fun hc hp => ?_)
    · rw [head?_append hlast (by rw [hc]; decide)]
      exact h3 hc
    · rw [head?_append hlast (by rw [hc]; decide)]
      exact h4 hc
    · subst hc
      exact hdelimiter.trans (h5 rfl hp)

/-- A step at a text that ends in a newline is the same step when more text follows. -/
theorem Moves.extend (h : Moves d s c cs st) (hs : s.OneLine) (hlast : (c :: cs).getLast? = some '\n')
    (bs : List Char) : Moves d s c (cs ++ bs) st := by
  cases h with
  | code h => exact .code (h.extend hlast bs)
  | escape =>
    rename_i previous
    have htake : (cs ++ bs).take 1 = cs.take 1 := by
      cases cs with
      | nil => exact absurd hlast (by decide)
      | cons x xs => rfl
    have hescape := @Moves.escape d previous (cs ++ bs)
    rwa [htake] at hescape
  | doubled h => exact .doubled ((head?_append hlast hs bs).trans h)
  | closing h => exact .closing (by rwa [head?_append hlast hs bs])
  | inQuotes h h' => exact .inQuotes h h'
  | dollarEnd h => exact .dollarEnd (h.trans (List.prefix_append (c :: cs) bs))
  | inDollars h => exact .inDollars fun h' => h (prefix_of_append hlast hs h')
  | lineEnd => exact .lineEnd
  | inLine h => exact .inLine h
  | blockEnd h => exact .blockEnd ((head?_append hlast (by decide) bs).trans h)
  | inBlock h => exact .inBlock fun hc => by rw [head?_append hlast (by rw [hc]; decide)]; exact h hc

theorem Moves.read_le (h : Moves d s c cs st) (hs : s.Clean) : st.read - 1 ≤ cs.length := by
  rcases h.copies_or_replaces hs with ⟨hcopies, -⟩ | ⟨-, name, length, hp, rfl⟩
  · have hle := hcopies.written.length_le
    rw [← hcopies.read, List.length_cons] at hle
    omega
  · obtain ⟨inner, rest, -, heq, -, rfl⟩ := placeholder?_eq_some_iff.1 hp
    have hlength := congrArg List.length heq
    simp only [List.length_cons, List.length_append] at hlength
    show inner.length + 3 - 1 ≤ cs.length
    omega

theorem after_append (hs : s.Clean) (hone : s.OneLine) (hlast : (c :: cs).getLast? = some '\n') (bs : List Char) :
    step d s c (cs ++ bs) = step d s c cs ∧ after d s c (cs ++ bs) = after d s c cs ++ bs := by
  have hm := step_moves d s c cs
  have hstep := (hm.extend hone hlast bs).eq
  refine ⟨hstep, ?_⟩
  rw [after, after, hstep, List.drop_append_of_le_length (hm.read_le hs)]

theorem getLast?_after (hlast : (c :: cs).getLast? = some '\n') (hne : after d s c cs ≠ []) :
    (after d s c cs).getLast? = some '\n' := by
  have hlength : ¬ cs.length ≤ (step d s c cs).read - 1 := fun h => hne (List.drop_eq_nil_iff.2 h)
  have hcs : cs ≠ [] := by rintro rfl; exact hlength (Nat.zero_le _)
  rw [after, List.getLast?_drop, if_neg hlength, ← hlast, List.getLast?_cons_of_ne_nil hcs]

/-- A step that reads all of the line copies the newline at its end: a placeholder ends in a brace. -/
theorem Moves.newline_mem_written (h : Moves d s c cs st) (hs : s.Clean) (hlast : (c :: cs).getLast? = some '\n')
    (hread : cs.length ≤ st.read - 1) : '\n' ∈ st.written := by
  rcases h.copies_or_replaces hs with ⟨hcopies, -⟩ | ⟨-, name, length, hp, rfl⟩
  · have hle : (c :: cs).length ≤ st.written.length := by
      have := hcopies.pos
      rw [← hcopies.read, List.length_cons]
      omega
    rw [hcopies.written.eq_of_length_le hle]
    exact List.mem_of_getLast? hlast
  · obtain ⟨inner, rest, -, heq, -, rfl⟩ := placeholder?_eq_some_iff.1 hp
    have hlength := congrArg List.length heq
    simp only [List.length_cons, List.length_append] at hlength
    have hnil : rest = [] := by
      refine List.eq_nil_of_length_eq_zero ?_
      have : cs.length ≤ inner.length + 3 - 1 := hread
      omega
    rw [heq, hnil, List.getLast?_concat] at hlast
    exact absurd hlast (by decide)

/-- A step that copies a newline and leads to code remembers the newline. -/
theorem Moves.previous_eq (h : Moves d s c cs st) (hs : s.OneLine) (hmem : '\n' ∈ st.written)
    (hcode : st.next.region = .code) : st.next.previous = some '\n' := by
  cases h with
  | code h =>
    cases h with
    | question => exact absurd hmem (by decide)
    | placeholder => exact absurd (List.mem_singleton.1 hmem) (by decide)
    | hash => exact absurd (List.mem_singleton.1 hmem) (by decide)
    | plain => rw [List.mem_singleton.1 hmem]; rfl
    | _ => cases hcode
  | closing => exact absurd (List.mem_singleton.1 hmem).symm hs
  | dollarEnd => exact absurd hmem hs
  | lineEnd => rfl
  | blockEnd => exact absurd hmem (by decide)
  | _ => cases hcode

end Steps

/-! ## The character before the text -/

/-- States between which the scanner does not tell: of the character before it sees only if it is a word character. -/
structure Scan.Like (s t : Scan) : Prop where
  region : s.region = t.region
  previous : s.previous.any isWordChar = t.previous.any isWordChar

/-- Steps that read, write and record the same and lead to like states. -/
structure Step.Like (st st' : Step) : Prop where
  read : st.read = st'.read
  written : st.written = st'.written
  origin : st.origin = st'.origin
  next : st.next.Like st'.next

@[refl] theorem Step.Like.refl (st : Step) : st.Like st := ⟨rfl, rfl, rfl, rfl, rfl⟩

theorem copyAll_like {p q : Option Char} (h : p.any isWordChar = q.any isWordChar) (region : Region) (ws : List Char) :
    (copyAll region ws p).Like (copyAll region ws q) :=
  ⟨rfl, rfl, rfl, rfl, h⟩

theorem stepCode_like (d : Dialect) {p q : Option Char} (h : p.any isWordChar = q.any isWordChar) (c : Char)
    (cs : List Char) : (stepCode d p c cs).Like (stepCode d q c cs) := by
  unfold stepCode
  rw [h]
  split_ifs
  all_goals first
    | exact copyAll_like h _ _
    | exact .refl _

theorem stepQuoted_like (close : Char) {p q : Option Char} (h : p.any isWordChar = q.any isWordChar) (c : Char)
    (cs : List Char) : (stepQuoted close p c cs).Like (stepQuoted close q c cs) := by
  unfold stepQuoted
  split_ifs
  all_goals first
    | exact copyAll_like h _ _
    | exact .refl _

theorem step_like (d : Dialect) {s t : Scan} (h : s.Like t) (c : Char) (cs : List Char) :
    (step d s c cs).Like (step d t c cs) := by
  obtain ⟨region, p⟩ := s
  obtain ⟨region', q⟩ := t
  obtain rfl : region = region' := h.region
  cases region with
  | code => exact stepCode_like d h.previous c cs
  | quoted close => exact stepQuoted_like close h.previous c cs
  | _ => exact .refl _

theorem scan_like (d : Dialect) {s t : Scan} (h : s.Like t) (cs : List Char) : scan d s 0 cs = scan d t 0 cs := by
  induction s, cs using scan_induction (d := d) generalizing t with
  | nil s => rfl
  | cons s c cs ih =>
    have hstep := step_like d h c cs
    have hafter : after d s c cs = after d t c cs := by rw [after, after, hstep.read]
    rw [scan_cons, scan_cons, hstep.written, hstep.origin, ih hstep.next, hafter]

/-! ## Lines -/

theorem endState_skip (d : Dialect) (s : Scan) :
    ∀ (k : Nat) (cs : List Char), endState d s k cs = endState d s 0 (cs.drop k)
  | 0, cs => rfl
  | k + 1, [] => by simp [endState]
  | k + 1, c :: cs => by rw [endState, endState_skip d s k cs, List.drop_succ_cons]

theorem endState_cons (d : Dialect) (s : Scan) (c : Char) (cs : List Char) :
    endState d s 0 (c :: cs) = endState d (step d s c cs).next 0 (after d s c cs) := by
  rw [endState, endState_skip]; rfl

/-- A run over lines that end in code goes on, over what follows, as a run from the start. -/
theorem scan_append {d : Dialect} {s : Scan} {cs : List Char} (hs : s.Clean) (hone : s.OneLine)
    (hlast : cs.getLast? = some '\n') (hcode : (endState d s 0 cs).region = .code) (bs : List Char) :
    scan d s 0 (cs ++ bs) =
      ((scan d s 0 cs).1 ++ (scan d .start 0 bs).1, (scan d s 0 cs).2 ++ (scan d .start 0 bs).2) := by
  induction s, cs using scan_induction (d := d) with
  | nil s => cases hlast
  | cons s c cs ih =>
    have hm := step_moves d s c cs
    obtain ⟨hstep, hafter⟩ := after_append hs hone hlast bs
    rw [endState_cons] at hcode
    rw [List.cons_append, scan_cons, scan_cons, hstep, hafter]
    have hrest : scan d (step d s c cs).next 0 (after d s c cs ++ bs) =
        ((scan d (step d s c cs).next 0 (after d s c cs)).1 ++ (scan d .start 0 bs).1,
          (scan d (step d s c cs).next 0 (after d s c cs)).2 ++ (scan d .start 0 bs).2) := by
      by_cases hnil : after d s c cs = []
      · -- the step read the newline, and in code the state after it is like the start
        rw [hnil] at hcode ⊢
        have hread : cs.length ≤ (step d s c cs).read - 1 := List.drop_eq_nil_iff.1 hnil
        have hprevious := hm.previous_eq hone (hm.newline_mem_written hs hlast hread) hcode
        have hlike : (step d s c cs).next.Like .start := ⟨hcode, by rw [hprevious]; decide⟩
        rw [List.nil_append, scan_like d hlike]
        simp [scan]
      · exact ih (hm.clean hs) (hm.oneLine hone) (getLast?_after hlast hnil) hcode
    rw [hrest]
    simp only [List.append_assoc]

/-- A template whose first lines end in code is normalized part by part: the lines, and what follows them. -/
theorem normalize_append (d : Dialect) (a b : String) (hlast : a.toList.getLast? = some '\n')
    (hcode : (endState d .start 0 a.toList).region = .code) :
    normalize d (a ++ b) =
      ⟨(normalize d a).text ++ (normalize d b).text, (normalize d a).origins ++ (normalize d b).origins⟩ := by
  have h := scan_append clean_start oneLine_start hlast hcode b.toList
  simp [normalize, h]

theorem normalize_append_comment :
    "SELECT a -- it's #\x7bx\x7d\n".toList.getLast? = some '\n' ∧
      (endState .mysql .start 0 "SELECT a -- it's #\x7bx\x7d\n".toList).region = .code ∧
      normalize .mysql ("SELECT a -- it's #\x7bx\x7d\n" ++ "FROM t WHERE b = #\x7by\x7d AND c = ?") =
        ⟨"SELECT a -- it's #\x7bx\x7d\nFROM t WHERE b = ? AND c = ?", [.named "y", .positional]⟩ := by
  have hlast : "SELECT a -- it's #\x7bx\x7d\n".toList.getLast? = some '\n' := by decide +kernel
  have hcode : (endState .mysql .start 0 "SELECT a -- it's #\x7bx\x7d\n".toList).region = .code := by decide +kernel
  exact ⟨hlast, hcode, (normalize_append .mysql _ _ hlast hcode).trans (by decide +kernel)⟩

end SqlTemplate.Template
