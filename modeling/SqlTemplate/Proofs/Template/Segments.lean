/-
A template as a row of segments: characters of code, named placeholders, and regions of quoted text and comments, each
with the text that opens it and the text that closes it. The scanner reads the template segment by segment. It writes a
`?` for each placeholder and copies the others, and it is in code wherever a segment begins.

What a segment is, is said of the text alone: a region ends where its closing text first stands, and a character of code
begins neither a region nor a placeholder.
-/
import SqlTemplate.Proofs.Template.Scan

namespace SqlTemplate.Template

/-! ## Segments -/

inductive Segment where
  | plain (c : Char)
  | placeholder (inner : List Char) (name : String)
  | region (r : Region) (opening body closing : List Char)

namespace Segment

def text : Segment → List Char
  | plain c => [c]
  | placeholder inner _ => '#' :: '\x7b' :: inner ++ ['\x7d']
  | region _ opening body closing => opening ++ body ++ closing

/-- What becomes of the segment. -/
def written : Segment → List Char
  | placeholder _ _ => ['?']
  | s => s.text

def origins : Segment → List Origin
  | plain c => if c = '?' then [.positional] else []
  | placeholder _ name => [.named name]
  | region _ _ _ _ => []

end Segment

/-- The inner text of a placeholder: what stands before its first comma is a name, blanks around it apart. -/
structure Holds (inner : List Char) (name : String) : Prop where
  bare : ∀ c ∈ inner, c ≠ '\x7b' ∧ c ≠ '\x7d' ∧ c ≠ '\n' ∧ c ≠ '?'
  trimmed : name.toList = Text.trimChars (inner.takeWhile (· != ','))
  nonempty : name ≠ ""
  chars : ∀ c ∈ name.toList, Text.isAlnum c = true ∨ c ∈ ['_', '.', '$', '[', ']']

/-- The text `opening` before `rest` begins a region, after the character `previous`. -/
inductive Opens (d : Dialect) (previous : Option Char) : Region → List Char → List Char → Prop
  | quoted {q : Char} {rest : List Char} : IsQuote q → Opens d previous (.quoted q) [q] rest
  | dashes {rest : List Char} : Opens d previous .lineComment ['-', '-'] rest
  | hash {rest : List Char} : d.hashComments = true →
      (∀ inner name rest', Holds inner name → '#' :: rest ≠ (Segment.placeholder inner name).text ++ rest') →
      Opens d previous .lineComment ['#'] rest
  | block {rest : List Char} : Opens d previous .blockComment ['/', '*'] rest
  | dollar {tag rest : List Char} : previous.any isWordChar = false → isTag tag = true → '$' ∉ tag →
      Opens d previous (.dollarQuoted ('$' :: tag ++ ['$'])) ('$' :: tag ++ ['$']) rest

/-- A text inside quotes: the closing quote stands in it only twice in a row, or after a backslash. -/
inductive Quoted (q : Char) : List Char → Prop
  | nil : Quoted q []
  | char {c : Char} {cs : List Char} : c ≠ q → (q = '\x27' → c ≠ '\\') → Quoted q cs → Quoted q (c :: cs)
  | doubled {cs : List Char} : Quoted q cs → Quoted q (q :: q :: cs)
  | escaped {c : Char} {cs : List Char} : q = '\x27' → Quoted q cs → Quoted q ('\\' :: c :: cs)

/-- The text that ends a region other than quoted text. -/
def Region.terminator : Region → List Char
  | .dollarQuoted delimiter => delimiter
  | .lineComment => ['\n']
  | .blockComment => ['*', '/']
  | _ => []

/-- The region goes on for `body` and is closed before `rest`; the last region of a template may stay open. -/
inductive Closes : Region → List Char → List Char → List Char → Prop
  | quote {q : Char} {body rest : List Char} : Quoted q body → rest.head? ≠ some q → Closes (.quoted q) body [q] rest
  | openQuote {q : Char} {body : List Char} : Quoted q body → Closes (.quoted q) body [] []
  | openEscape {body : List Char} : Quoted '\x27' body → Closes (.quoted '\x27') (body ++ ['\\']) [] []
  | ends {r : Region} {body rest : List Char} : r.terminator ≠ [] →
      ¬ r.terminator <:+: body ++ r.terminator.dropLast → Closes r body r.terminator rest
  | unended {r : Region} {body : List Char} : r.terminator ≠ [] → ¬ r.terminator <:+: body → Closes r body [] []

/-- The segment stands in code, after the character `previous` and before `rest`. -/
def Segment.Fits (d : Dialect) (previous : Option Char) (rest : List Char) : Segment → Prop
  | plain c =>
    (∀ r opening rest', c :: rest = opening ++ rest' → ¬ Opens d previous r opening rest') ∧
      ∀ inner name rest', Holds inner name → c :: rest ≠ (placeholder inner name).text ++ rest'
  | placeholder inner name => Holds inner name
  | region r opening body closing => Opens d previous r opening (body ++ closing ++ rest) ∧ Closes r body closing rest

/-- The text is a row of segments; `previous` is the character before it. -/
inductive Split (d : Dialect) : Option Char → List Char → List Segment → Prop
  | nil {previous : Option Char} : Split d previous [] []
  | cons {previous : Option Char} {s : Segment} {rest : List Char} {ss : List Segment} : s.Fits d previous rest →
      Split d s.text.getLast? rest ss → Split d previous (s.text ++ rest) (s :: ss)

/-! ## The scanner on segments -/

/-- One step of the scanner, from state `s` to state `t`: it reads `text`, which stands before `rest`. -/
def Goes (d : Dialect) (s : Scan) (text written : List Char) (os : List Origin) (t : Scan) (rest : List Char) : Prop :=
  ∃ c cs, c :: cs = text ++ rest ∧ (step d s c cs).written = written ∧ (step d s c cs).origin.toList = os ∧
    (step d s c cs).next = t ∧ after d s c cs = rest

/-- The scanner copies a text, which stands before `rest`, and is in the region `r` at each step on the way. -/
inductive Stays (d : Dialect) (r : Region) : Scan → List Char → Scan → List Char → Prop
  | refl {s : Scan} {rest : List Char} : Stays d r s [] s rest
  | step {s t u : Scan} {xs ys rest : List Char} : s.region = r → Goes d s xs xs [] t (ys ++ rest) →
      Stays d r t ys u rest → Stays d r s (xs ++ ys) u rest

/-- The scanner takes a segment, which stands before `rest`, from code to state `t`. A region it enters by its first step,
and there it stays. -/
inductive Segment.Taken (d : Dialect) (s : Scan) (rest : List Char) : Segment → Scan → Prop
  | plain {c : Char} {t : Scan} : s.region = .code → Goes d s [c] [c] (Segment.plain c).origins t rest →
      Taken d s rest (.plain c) t
  | placeholder {inner : List Char} {name : String} {t : Scan} : s.region = .code →
      Goes d s (Segment.placeholder inner name).text ['?'] [.named name] t rest →
      Taken d s rest (.placeholder inner name) t
  | region {opening body closing xs ys : List Char} {t u : Scan} : s.region = .code →
      opening ++ body ++ closing = xs ++ ys → Goes d s xs xs [] t (ys ++ rest) → Stays d t.region t ys u rest →
      Taken d s rest (.region t.region opening body closing) u

/-- The scanner takes the segments one after the other. -/
inductive Follows (d : Dialect) : Scan → List Segment → Prop
  | nil {s : Scan} : Follows d s []
  | cons {s t : Scan} {seg : Segment} {ss : List Segment} : seg.Taken d s (ss.flatMap Segment.text) t → Follows d t ss →
      Follows d s (seg :: ss)

section Steps

variable {d : Dialect} {s t u : Scan} {text written rest xs ys : List Char} {os : List Origin}

theorem Goes.scan_eq (h : Goes d s text written os t rest) :
    scan d s 0 (text ++ rest) = (written ++ (scan d t 0 rest).1, os ++ (scan d t 0 rest).2) := by
  obtain ⟨c, cs, heq, rfl, rfl, rfl, rfl⟩ := h
  rw [← heq, scan_cons]

theorem Stays.scan_eq {r : Region} (h : Stays d r s text t rest) :
    scan d s 0 (text ++ rest) = (text ++ (scan d t 0 rest).1, (scan d t 0 rest).2) := by
  induction h with
  | refl => rfl
  | step _ hgoes _ ih => rw [List.append_assoc, hgoes.scan_eq, ih, List.append_assoc, List.nil_append]

theorem Segment.Taken.scan_eq {seg : Segment} (h : seg.Taken d s rest t) :
    scan d s 0 (seg.text ++ rest) = (seg.written ++ (scan d t 0 rest).1, seg.origins ++ (scan d t 0 rest).2) := by
  cases h with
  | plain _ hgoes => exact hgoes.scan_eq
  | placeholder _ hgoes => exact hgoes.scan_eq
  | region _ heq hgoes hstays =>
    rw [Segment.written, Segment.text, heq, List.append_assoc, hgoes.scan_eq, hstays.scan_eq, List.append_assoc]
    · rfl
    · exact nofun

theorem Follows.scan_eq {ss : List Segment} (h : Follows d s ss) :
    scan d s 0 (ss.flatMap Segment.text) = (ss.flatMap Segment.written, ss.flatMap Segment.origins) := by
  induction h with
  | nil => rfl
  | cons htaken _ ih => rw [List.flatMap_cons, htaken.scan_eq, ih, List.flatMap_cons, List.flatMap_cons]

theorem goes_copyAll {region : Region} {previous : Option Char} {c : Char} {cs : List Char}
    (hm : Moves d s c cs (copyAll region text previous)) (hne : text ≠ []) (heq : c :: cs = text ++ rest) :
    Goes d s text text [] ⟨region, previous⟩ rest := by
  have hstep := hm.eq
  have hcopies : (step d s c cs).Copies (c :: cs) := by
    rw [hstep]
    exact copyAll_copies ⟨rest, heq.symm⟩ hne
  refine ⟨c, cs, heq, by rw [hstep]; rfl, by rw [hstep]; rfl, by rw [hstep]; rfl, ?_⟩
  have happ := hcopies.append_after
  rw [hstep] at happ
  exact List.append_cancel_left (happ.trans heq)

theorem goes_copy {region : Region} {c : Char} {cs : List Char} (hm : Moves d s c cs (copy region c)) :
    Goes d s [c] [c] [] ⟨region, some c⟩ cs := by
  have hall : Moves d s c cs (copyAll region [c] (some c)) := hm
  exact goes_copyAll hall (by simp) rfl

end Steps

/-! ## Regions -/

section Regions

variable {d : Dialect} {r : Region} {s t : Scan} {xs ys rest : List Char}

/-- From state `s` in the region `r` the scanner copies the text up to where it closes the region, or up to the end. -/
def RunsOut (d : Dialect) (r : Region) (s : Scan) (cs : List Char) : Prop :=
  ∃ body closing rest t, cs = body ++ closing ++ rest ∧ Closes r body closing rest ∧
    Stays d r s (body ++ closing) t rest ∧
    (rest = [] ∨ t.region = .code ∧ closing ≠ [] ∧ t.previous = closing.getLast?)

theorem runsOut_nil (h : Closes r [] [] []) : RunsOut d r s [] := ⟨[], [], [], s, rfl, h, .refl, .inl rfl⟩

/-- The step at which the region is closed. -/
theorem runsOut_closing (hs : s.region = r) (hgoes : Goes d s xs xs [] t rest) (hx : xs ≠ []) (ht : t.region = .code)
    (hprevious : t.previous = xs.getLast?) (h : Closes r [] xs rest) : RunsOut d r s (xs ++ rest) := by
  refine ⟨[], xs, rest, t, rfl, h, ?_, .inr ⟨ht, hx, hprevious⟩⟩
  have hstays : Stays d r s (xs ++ []) t rest := .step hs hgoes .refl
  rwa [List.append_nil] at hstays

/-- A step on the way. -/
theorem RunsOut.step (h : RunsOut d r t ys) (hs : s.region = r) (hgoes : Goes d s xs xs [] t ys)
    (hcloses : ∀ body closing rest, ys = body ++ closing ++ rest → Closes r body closing rest →
      Closes r (xs ++ body) closing rest) : RunsOut d r s (xs ++ ys) := by
  obtain ⟨body, closing, rest, u, rfl, hc, hstays, hu⟩ := h
  refine ⟨xs ++ body, closing, rest, u, by simp only [List.append_assoc], hcloses _ _ _ rfl hc, ?_, hu⟩
  rw [List.append_assoc]
  exact .step hs hgoes hstays

/-! ### Quoted text -/

theorem Closes.append_quoted {q : Char} {body closing : List Char} (hx : ∀ cs, Quoted q cs → Quoted q (xs ++ cs))
    (h : Closes (.quoted q) body closing rest) : Closes (.quoted q) (xs ++ body) closing rest := by
  cases h with
  | quote hb hr => exact .quote (hx _ hb) hr
  | openQuote hb => exact .openQuote (hx _ hb)
  | openEscape hb =>
    rw [← List.append_assoc]
    exact .openEscape (hx _ hb)
  | ends h => exact absurd rfl h
  | unended h => exact absurd rfl h

theorem runsOut_quoted {q : Char} (hq : IsQuote q) (p : Option Char) (cs : List Char) :
    RunsOut d (.quoted q) ⟨.quoted q, p⟩ cs := by
  induction hl : cs.length using Nat.strong_induction_on generalizing cs p with
  | _ n ih =>
    subst hl
    cases cs with
    | nil => exact runsOut_nil (.openQuote .nil)
    | cons c cs =>
      have hm := step_moves d ⟨.quoted q, p⟩ c cs
      generalize Template.step d ⟨.quoted q, p⟩ c cs = st at hm
      have hgoes := hm
      cases hm with
      | escape =>
        cases cs with
        | nil =>
          refine (runsOut_nil (.openQuote .nil)).step rfl (goes_copyAll hgoes (by simp) rfl) ?_
          intro body closing rest hnil _
          obtain ⟨rfl, rfl, rfl⟩ : body = [] ∧ closing = [] ∧ rest = [] := by simpa using hnil
          exact .openEscape .nil
        | cons e cs =>
          refine (ih cs.length (by simp only [List.length_cons]; omega) p cs rfl).step rfl (goes_copyAll hgoes (by simp) rfl) ?_
          intro body closing rest _
          exact Closes.append_quoted fun _ => .escaped rfl
      | doubled h =>
        obtain ⟨cs, rfl⟩ := List.head?_eq_some_iff.1 h
        refine (ih cs.length (by simp only [List.length_cons]; omega) p cs rfl).step rfl (goes_copyAll hgoes (by simp) rfl) ?_
        intro body closing rest _
        exact Closes.append_quoted fun _ => .doubled
      | closing h =>
        exact runsOut_closing rfl (goes_copy hgoes) (by simp) rfl rfl (.quote .nil h)
      | inQuotes hc hb =>
        refine (ih cs.length (by simp) (some c) cs rfl).step rfl (goes_copy hgoes) ?_
        intro body closing rest _
        exact Closes.append_quoted fun _ => .char hc hb

/-! ### Text up to a terminator -/

/-- Regions that end with a text of their own. -/
def Region.Terminated : Region → Prop
  | .dollarQuoted delimiter => delimiter.getLast? = some '$'
  | .lineComment | .blockComment => True
  | _ => False

theorem Region.Terminated.ne_nil (h : r.Terminated) : r.terminator ≠ [] := by
  cases r with
  | dollarQuoted delimiter => rintro rfl; cases h
  | lineComment => exact List.cons_ne_nil _ _
  | blockComment => exact List.cons_ne_nil _ _
  | _ => cases h

theorem moves_terminator {c : Char} {cs : List Char} (h : r.Terminated) (p : Option Char)
    (hc : r.terminator <+: c :: cs) :
    Moves d ⟨r, p⟩ c cs (copyAll .code r.terminator r.terminator.getLast?) := by
  obtain ⟨rest, heq⟩ := hc
  cases r with
  | dollarQuoted delimiter =>
    have hlast : delimiter.getLast? = some '$' := h
    rw [Region.terminator, hlast]
    exact .dollarEnd ⟨rest, heq⟩
  | lineComment =>
    obtain ⟨rfl, -⟩ := List.cons.inj heq
    exact .lineEnd
  | blockComment =>
    obtain ⟨rfl, rfl⟩ := List.cons.inj heq
    exact .blockEnd rfl
  | _ => cases h

theorem moves_inside {c : Char} {cs : List Char} (h : r.Terminated) (p : Option Char)
    (hc : ¬ r.terminator <+: c :: cs) : Moves d ⟨r, p⟩ c cs (copy r c) := by
  cases r with
  | dollarQuoted delimiter => exact .inDollars hc
  | lineComment =>
    refine .inLine ?_
    rintro rfl
    exact hc ⟨cs, rfl⟩
  | blockComment =>
    refine .inBlock ?_
    rintro rfl hhead
    obtain ⟨rest, rfl⟩ := List.head?_eq_some_iff.1 hhead
    exact hc ⟨rest, rfl⟩
  | _ => cases h

/-- A character at which no terminator begins stays inside. -/
theorem Closes.cons_terminated {c : Char} {body closing : List Char} (hr : r.Terminated)
    (h : Closes r body closing rest) (hc : ¬ r.terminator <+: c :: (body ++ closing ++ rest)) :
    Closes r ([c] ++ body) closing rest := by
  have hwithin : ∀ zs, zs <+: body ++ closing ++ rest → ¬ r.terminator <:+: zs → ¬ r.terminator <:+: c :: zs := by
    intro zs hzs hnot hin
    rcases List.infix_cons_iff.1 hin with hp | hi
    · exact hc (hp.trans (List.cons_prefix_cons.2 ⟨rfl, hzs⟩))
    · exact hnot hi
  cases h with
  | ends hne hnot =>
    refine .ends hne (hwithin _ ?_ hnot)
    rw [List.append_assoc]
    exact (List.prefix_append_right_inj _).2 ((List.dropLast_prefix _).trans (List.prefix_append _ _))
  | unended hne hnot => exact .unended hne (hwithin _ (by simp) hnot)
  | _ => cases hr

theorem runsOut_terminated (h : r.Terminated) (p : Option Char) (cs : List Char) : RunsOut d r ⟨r, p⟩ cs := by
  induction cs generalizing p with
  | nil => exact runsOut_nil (.unended h.ne_nil (by simpa using h.ne_nil))
  | cons c cs ih =>
    by_cases hprefix : r.terminator <+: c :: cs
    · have hm := moves_terminator (d := d) h p hprefix
      obtain ⟨rest, heq⟩ := hprefix
      rw [← heq]
      refine runsOut_closing rfl (goes_copyAll hm h.ne_nil heq.symm) h.ne_nil rfl rfl (.ends h.ne_nil fun hwithin => ?_)
      have hlength := hwithin.length_le
      rw [List.nil_append, List.length_dropLast] at hlength
      have := List.length_pos_iff.2 h.ne_nil
      omega
    · refine (ih (some c)).step rfl (goes_copy (moves_inside h p hprefix)) ?_
      rintro body closing rest rfl hc
      exact hc.cons_terminated h hprefix

end Regions

/-! ## Code -/

theorem isNameChar_iff {c : Char} : isNameChar c = true ↔ Text.isAlnum c = true ∨ c ∈ ['_', '.', '$', '[', ']'] := by
  simp [isNameChar, or_assoc]

theorem endsInner_eq_false_iff {c : Char} : endsInner c = false ↔ c ≠ '\x7b' ∧ c ≠ '\x7d' ∧ c ≠ '\n' := by
  simp [endsInner]
  tauto

/-- The inner texts of placeholders are those that the scanner finds a name in. -/
theorem holds_iff {inner : List Char} {name : String} :
    Holds inner name ↔ (∀ c ∈ inner, endsInner c = false) ∧ innerName? inner = some name := by
  constructor
  · rintro ⟨hbare, htrimmed, hnonempty, hchars⟩
    refine ⟨fun c hc => ?_, ?_⟩
    · obtain ⟨h1, h2, h3, -⟩ := hbare c hc
      exact endsInner_eq_false_iff.2 ⟨h1, h2, h3⟩
    · have hquestion : '?' ∉ inner := fun hm => (hbare '?' hm).2.2.2 rfl
      have hempty : name.toList.isEmpty = false := by simpa using hnonempty
      have hall : name.toList.all isNameChar = true := List.all_eq_true.2 fun c hc => isNameChar_iff.2 (hchars c hc)
      simp [innerName?, ← htrimmed, hquestion, hempty, hall]
  · rintro ⟨hends, hname⟩
    unfold innerName? at hname
    simp only at hname
    split at hname
    · rename_i hvalid
      simp only [Bool.and_eq_true, Bool.not_eq_true', List.all_eq_true] at hvalid
      obtain ⟨⟨hquestion, hempty⟩, hall⟩ := hvalid
      cases hname
      refine ⟨fun c hc => ?_, String.toList_ofList, ?_, fun c hc => ?_⟩
      · obtain ⟨h1, h2, h3⟩ := endsInner_eq_false_iff.1 (hends c hc)
        refine ⟨h1, h2, h3, ?_⟩
        rintro rfl
        simp [hc] at hquestion
      · intro hnil
        rw [← String.toList_eq_nil_iff, String.toList_ofList] at hnil
        rw [hnil] at hempty
        cases hempty
      · rw [String.toList_ofList] at hc
        exact isNameChar_iff.1 (hall c hc)
    · cases hname

/-- A text begins with the placeholder that the scanner finds, -/
theorem exists_of_placeholder? {cs : List Char} {name : String} {length : Nat}
    (h : placeholder? cs = some (name, length)) :
    ∃ inner rest, Holds inner name ∧ cs = (Segment.placeholder inner name).text ++ rest ∧
      length = (Segment.placeholder inner name).text.length := by
  obtain ⟨inner, rest, hends, heq, hname, rfl⟩ := placeholder?_eq_some_iff.1 h
  refine ⟨inner, rest, holds_iff.2 ⟨hends, hname⟩, ?_, by simp [Segment.text]⟩
  rw [heq, Segment.text, List.append_assoc, List.singleton_append]

/-- and with none if the scanner finds none. -/
theorem not_holds_of_placeholder? {cs : List Char} (h : placeholder? cs = none) (inner : List Char) (name : String)
    (rest : List Char) (hholds : Holds inner name) : cs ≠ (Segment.placeholder inner name).text ++ rest := by
  intro heq
  obtain ⟨hends, hname⟩ := holds_iff.1 hholds
  have hsome : placeholder? cs = some (name, inner.length + 3) := by
    refine placeholder?_eq_some_iff.2 ⟨inner, rest, hends, ?_, hname, rfl⟩
    rw [heq, Segment.text, List.append_assoc, List.singleton_append]
  rw [h] at hsome
  cases hsome

section Code

variable {d : Dialect} {s : Scan} {p : Option Char} {c : Char} {cs : List Char}

/-- A segment that the scanner takes stands at the front of the text, and if it is not the last one, the scanner is in
code again after it. -/
def Begins (d : Dialect) (s : Scan) (previous : Option Char) (cs : List Char) : Prop :=
  ∃ seg rest t, cs = Segment.text seg ++ rest ∧ seg.text ≠ [] ∧ seg.Fits d previous rest ∧ seg.Taken d s rest t ∧
    (rest = [] ∨ t.region = .code ∧ t.previous.any isWordChar = seg.text.getLast?.any isWordChar)

theorem fits_plain (hquote : ¬ IsQuote c) (hdash : c = '-' → cs.head? ≠ some '-') (hslash : c = '/' → cs.head? ≠ some '*')
    (hhash : c = '#' → d.hashComments = false ∧ placeholder? ('#' :: cs) = none)
    (hdollar : c = '$' → p.any isWordChar = false → dollarDelimiter? ('$' :: cs) = none) :
    (Segment.plain c).Fits d p cs := by
  constructor
  · intro r opening rest heq hopens
    cases hopens with
    | quoted hq => exact hquote ((List.cons.inj heq).1 ▸ hq)
    | dashes =>
      obtain ⟨rfl, rfl⟩ := List.cons.inj heq
      exact hdash rfl rfl
    | hash hd =>
      obtain ⟨rfl, -⟩ := List.cons.inj heq
      rw [(hhash rfl).1] at hd
      cases hd
    | block =>
      obtain ⟨rfl, rfl⟩ := List.cons.inj heq
      exact hslash rfl rfl
    | @dollar tag rest hword htag hmem =>
      have hsome := dollarDelimiter?_eq_some_iff.2 ⟨tag, rest, htag, hmem, heq.trans (by simp), rfl⟩
      obtain rfl : c = '$' := (List.cons.inj heq).1
      rw [hdollar rfl hword] at hsome
      cases hsome
  · intro inner name rest hholds heq
    obtain ⟨rfl, -⟩ := List.cons.inj heq
    exact not_holds_of_placeholder? (hhash rfl).2 inner name rest hholds heq

theorem begins_plain {t : Scan} (hs : s.region = .code) (hfits : (Segment.plain c).Fits d p cs)
    (hgoes : Goes d s [c] [c] (Segment.plain c).origins t cs) (ht : t = ⟨.code, some c⟩) : Begins d s p (c :: cs) :=
  ⟨.plain c, cs, t, rfl, List.cons_ne_nil _ _, hfits, .plain hs hgoes, .inr (by rw [ht]; exact ⟨rfl, rfl⟩)⟩

theorem Stays.trans {r : Region} {s t u : Scan} {xs ys mid rest : List Char} (h : Stays d r s xs t mid)
    (heq : mid = ys ++ rest) (h' : Stays d r t ys u rest) : Stays d r s (xs ++ ys) u rest := by
  induction h with
  | refl => exact h'
  | step hs hgoes _ ih =>
    rw [List.append_assoc]
    refine .step hs ?_ (ih heq h')
    rwa [List.append_assoc, ← heq]

theorem Opens.ne_nil {r : Region} {opening rest : List Char} (h : Opens d p r opening rest) : opening ≠ [] := by
  cases h <;> simp

/-- A region, of whose opening text the first step reads `xs` and the others `ys`. -/
theorem begins_region {r : Region} {t u : Scan} (xs ys : List Char) (hs : s.region = .code)
    (hopens : Opens d p r (xs ++ ys) cs) (hgoes : Goes d s xs xs [] t (ys ++ cs)) (ht : t.region = r)
    (hstays : Stays d r t ys u cs) (hout : RunsOut d r u cs) : Begins d s p (xs ++ ys ++ cs) := by
  subst ht
  obtain ⟨body, closing, rest, v, rfl, hcloses, hrest, hv⟩ := hout
  have hsplit : xs ++ ys ++ body ++ closing = xs ++ (ys ++ (body ++ closing)) := by simp only [List.append_assoc]
  rw [← List.append_assoc] at hgoes
  refine ⟨.region t.region (xs ++ ys) body closing, rest, v, ?_, ?_, ⟨hopens, hcloses⟩,
    .region hs hsplit ?_ (hstays.trans rfl hrest), hv.imp_right ?_⟩
  · simp only [Segment.text, List.append_assoc]
  · exact List.append_ne_nil_of_left_ne_nil (List.append_ne_nil_of_left_ne_nil hopens.ne_nil _) _
  · rwa [List.append_assoc] at hgoes ⊢
  · rintro ⟨hcode, hne, hprevious⟩
    refine ⟨hcode, ?_⟩
    rw [hprevious, Segment.text, List.getLast?_append_of_ne_nil _ hne]

theorem begins_placeholder {name : String} {length : Nat} (hs : s.region = .code)
    (h : placeholder? ('#' :: cs) = some (name, length))
    (hm : Moves d s '#' cs ⟨length, ['?'], some (.named name), ⟨.code, some '?'⟩⟩) : Begins d s p ('#' :: cs) := by
  have hstep := hm.eq
  obtain ⟨inner, rest, hholds, heq, rfl⟩ := exists_of_placeholder? h
  have hafter : after d s '#' cs = rest := by
    obtain ⟨-, rfl⟩ := List.cons.inj heq
    rw [after, hstep]
    exact List.drop_left
  have hgoes : Goes d s (Segment.placeholder inner name).text ['?'] [.named name] ⟨.code, some '?'⟩ rest :=
    ⟨'#', cs, heq, by rw [hstep], by rw [hstep]; rfl, by rw [hstep], hafter⟩
  refine ⟨.placeholder inner name, rest, ⟨.code, some '?'⟩, heq, List.cons_ne_nil _ _, hholds, .placeholder hs hgoes,
    .inr ⟨rfl, ?_⟩⟩
  rw [Segment.text, List.getLast?_append_of_ne_nil _ (List.cons_ne_nil _ _)]
  decide

theorem begins_dollarQuoted {delimiter : List Char} (hs : s.region = .code) (hword : p.any isWordChar = false)
    (h : dollarDelimiter? ('$' :: cs) = some delimiter)
    (hm : Moves d s '$' cs (copyAll (.dollarQuoted delimiter) delimiter (some '$'))) : Begins d s p ('$' :: cs) := by
  obtain ⟨tag, rest, htag, hmem, heq, rfl⟩ := dollarDelimiter?_eq_some_iff.1 h
  have heq : '$' :: cs = '$' :: tag ++ ['$'] ++ rest := heq.trans (by simp)
  have hlast : ('$' :: tag ++ ['$']).getLast? = some '$' := List.getLast?_concat
  have hopens : Opens d p (.dollarQuoted ('$' :: tag ++ ['$'])) ('$' :: tag ++ ['$'] ++ []) rest := by
    rw [List.append_nil]
    exact .dollar hword htag hmem
  have hbegins := begins_region ('$' :: tag ++ ['$']) [] hs hopens (goes_copyAll hm (by simp) heq) rfl .refl
    (runsOut_terminated (r := .dollarQuoted ('$' :: tag ++ ['$'])) hlast _ rest)
  rw [heq]
  rwa [List.append_nil] at hbegins

theorem begins_code (hs : s.region = .code) (hp : s.previous.any isWordChar = p.any isWordChar) (c : Char)
    (cs : List Char) : Begins d s p (c :: cs) := by
  obtain ⟨region, previous⟩ := s
  obtain rfl : region = .code := hs
  have hm := stepCode_codeStep d previous c cs
  generalize stepCode d previous c cs = st at hm
  have hgoes := hm
  cases hm with
  | quote hq =>
    exact begins_region [c] [] rfl (.quoted hq) (goes_copy (.code hgoes)) rfl .refl (runsOut_quoted hq _ cs)
  | lineComment h =>
    obtain ⟨cs, rfl⟩ := List.head?_eq_some_iff.1 h
    have hsecond : Goes d ⟨.lineComment, some '-'⟩ ['-'] ['-'] [] ⟨.lineComment, some '-'⟩ cs :=
      goes_copy (.inLine (by decide))
    exact begins_region ['-'] ['-'] rfl .dashes (goes_copy (.code hgoes)) rfl (.step rfl hsecond .refl)
      (runsOut_terminated (r := .lineComment) trivial _ cs)
  | blockComment h =>
    obtain ⟨cs, rfl⟩ := List.head?_eq_some_iff.1 h
    exact begins_region ['/', '*'] [] rfl .block (goes_copyAll (.code hgoes) (by simp) rfl) rfl .refl
      (runsOut_terminated (r := .blockComment) trivial _ cs)
  | question =>
    have hfits : (Segment.plain '?').Fits d p cs :=
      fits_plain (by simp [IsQuote]) (by simp) (by simp) (by simp) (by simp)
    exact begins_plain rfl hfits ⟨'?', cs, rfl, rfl, rfl, rfl, rfl⟩ rfl
  | placeholder h =>
    exact begins_placeholder rfl h (.code hgoes)
  | hash h =>
    cases hd : d.hashComments with
    | true =>
      rw [hd] at hgoes
      exact begins_region ['#'] [] rfl (.hash hd fun inner name rest => not_holds_of_placeholder? h inner name rest)
        (goes_copy (.code hgoes)) rfl .refl (runsOut_terminated (r := .lineComment) trivial _ cs)
    | false =>
      rw [hd] at hgoes
      have hfits : (Segment.plain '#').Fits d p cs :=
        fits_plain (by simp [IsQuote]) (by simp) (by simp) (fun _ => ⟨hd, h⟩) (by simp)
      exact begins_plain rfl hfits (goes_copy (.code hgoes)) rfl
  | dollarQuote hword h =>
    exact begins_dollarQuoted rfl (hp ▸ hword) h (.code hgoes)
  | plain hq h1 h2 h3 h4 h5 =>
    have horigins : (Segment.plain c).origins = [] := if_neg h1
    refine begins_plain rfl (fits_plain hq h3 h4 (fun h => absurd h h2) fun h hw => h5 h (hp.trans hw)) ?_ rfl
    rw [horigins]
    exact goes_copy (.code hgoes)

end Code

/-! ## Templates -/

theorem exists_split {d : Dialect} {s : Scan} {p : Option Char} (hs : s.region = .code)
    (hp : s.previous.any isWordChar = p.any isWordChar) (cs : List Char) :
    ∃ ss, Split d p cs ss ∧ Follows d s ss ∧ cs = ss.flatMap Segment.text := by
  induction hl : cs.length using Nat.strong_induction_on generalizing cs s p with
  | _ n ih =>
    subst hl
    cases cs with
    | nil => exact ⟨[], .nil, .nil, rfl⟩
    | cons c cs =>
      obtain ⟨seg, rest, t, heq, hne, hfits, htaken, hrest⟩ := begins_code (d := d) hs hp c cs
      rw [heq]
      rcases hrest with rfl | ⟨ht, hprevious⟩
      · exact ⟨[seg], .cons hfits .nil, .cons htaken .nil, by simp⟩
      · have hlt : rest.length < (c :: cs).length := by
          have := List.length_pos_iff.2 hne
          rw [heq, List.length_append]
          omega
        obtain ⟨ss, hsplit, hfollows, rfl⟩ := ih _ hlt ht hprevious rest rfl
        exact ⟨seg :: ss, .cons hfits hsplit, .cons htaken hfollows, by simp⟩

/-- A template is a row of segments, which the scanner takes one after the other; it writes a `?` for each placeholder
and copies everything else, and it records the name of each placeholder and each `?` of code, in order. -/
theorem normalize_segments (d : Dialect) (template : String) :
    ∃ ss, Split d none template.toList ss ∧ Follows d .start ss ∧
      (normalize d template).text.toList = ss.flatMap Segment.written ∧
      (normalize d template).origins = ss.flatMap Segment.origins := by
  obtain ⟨ss, hsplit, hfollows, heq⟩ := exists_split (d := d) (s := .start) (p := none) rfl rfl template.toList
  have hscan := hfollows.scan_eq
  rw [← heq] at hscan
  refine ⟨ss, hsplit, hfollows, ?_, ?_⟩
  · simp [normalize, hscan]
  · simp [normalize, hscan]

end SqlTemplate.Template
