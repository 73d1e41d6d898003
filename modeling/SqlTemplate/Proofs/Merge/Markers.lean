/-
Placeholders of merged statements. What a merge adds comes after everything that it keeps, except what a SELECT
written after its tables selects: if that holds no placeholder or the joins hold none, and if printing the statement
and the fragments keeps their placeholders, then those of the merged text are the statement's own, then those of the
joins, then those of the predicate. The guard of a merge counts placeholders of printed pieces, so the proof follows
the statement's layout.
-/
import SqlTemplate.Analysis
import SqlTemplate.Proofs.Grammar.RoundTrip
import SqlTemplate.Proofs.Merge.Basic
import SqlTemplate.Proofs.Merge.Layout

namespace SqlTemplate.Merge

open Parameter (Piece markersOf tokensOf markerTexts Apart)
open Parameter.Piece (charsAfter charsOf Legible)
open Template (Parsed parse parseSingle tokenize prepare parameters)

/-! ## Counting -/

/-- The placeholders of pieces, one by one. -/
def marks (d : Dialect) (xs : List Piece) : List String := xs.flatMap fun x => markersOf d x.text

@[simp] theorem marks_nil (d : Dialect) : marks d [] = [] := rfl

@[simp] theorem marks_cons (d : Dialect) (x : Piece) (xs : List Piece) : marks d (x :: xs) = markersOf d x.text ++ marks d xs := rfl

@[simp] theorem marks_append (d : Dialect) (xs ys : List Piece) : marks d (xs ++ ys) = marks d xs ++ marks d ys :=
  List.flatMap_append

@[simp] theorem marks_row (d : Dialect) (texts : List String) : marks d (row texts) = texts.flatMap (markersOf d) := by
  rw [marks, row, List.flatMap_map]; rfl

@[simp] theorem marks_items (d : Dialect) (texts : List String) : marks d (items texts) = texts.flatMap (markersOf d) := by
  induction texts with
  | nil => rfl
  | cons t ts ih =>
    cases ts with
    | nil => simp [items, word]
    | cons u ts => rw [items, marks_cons, ih, List.flatMap_cons (x := t)]

@[simp] theorem marks_shown (d : Dialect) (texts : List String) : marks d (shown texts) = texts.flatMap (markersOf d) := by
  unfold shown
  split
  · rename_i h
    match texts with
    | [] => rfl
    | [t] =>
      have ht : t = "" := by simpa [Text.commas, Text.join] using h
      rw [ht]; rfl
    | t :: u :: ts =>
      have hc : Text.commas (t :: u :: ts) = t ++ ", " ++ Text.commas (u :: ts) := String.intercalate_cons_cons
      simp [hc] at h
  · exact marks_items d texts

theorem markersOf_eq {d : Dialect} {text : String} {tokens : List Lexeme} (h : Lexer.tokenize d text = .ok tokens) :
    markersOf d text = (Parameter.markers tokens).map Parameter.Marker.text := by
  have hl : tokensOf d text = tokens.map Lexeme.token := by
    have h' : Lexer.run d none 0 ⟨1, 1⟩ text.toList = .ok tokens := h
    rw [tokensOf, Lexer.lex, h']
    rfl
  rw [markersOf, hl, Parameter.markers, Parameter.map_text_markersFrom]

theorem countMarkers_eq {c : Config} {text : String} {n : Nat} (h : countMarkers c text = .ok n) :
    n = (markersOf c.dialect text).length := by
  obtain ⟨tokens, ht, h⟩ := bind_eq_ok.1 h
  cases h
  rw [markersOf_eq ht, List.length_map]
  rfl

theorem countAll_eq {c : Config} {texts : List String} {n : Nat} (h : countAll c texts = .ok n) :
    n = (texts.flatMap (markersOf c.dialect)).length := by
  induction texts generalizing n with
  | nil => cases h; rfl
  | cons t ts ih =>
    obtain ⟨i, hi, h⟩ := bind_eq_ok.1 h
    obtain ⟨j, hj, h⟩ := bind_eq_ok.1 h
    cases h
    rw [List.flatMap_cons, List.length_append, countMarkers_eq hi, ih hj]

/-! ## Places to attach -/

/-- Whether a SELECT is written with its tables first. -/
def tablesFirst : Statement → Bool
  | .query ⟨_, _, .select s, _⟩ => s.tablesFirst
  | _ => false

/-- What is known of the place where a statement takes additions: only a DELETE without targets is given one, and no
more placeholders are counted than stand before the joins and before the end of WHERE. -/
structure Placed (d : Dialect) (st : Statement) (a : AttachPoint) : Prop where
  target : ∀ name, a.slot = .nameTarget name → ∃ del, st = .delete del ∧ del.targets = []
  before : a.beforeJoins ≤ (marks d ((layout st).opening ++ (layout st).head)).length +
    if tablesFirst st then (marks d (layout st).middle).length else 0
  through : a.throughWhere ≤ (marks d ((layout st).opening ++ ((layout st).head ++ ((layout st).middle ++
    guarded "WHERE" (Expr.printOption (layout st).selection))))).length

theorem length_marks_guarded (d : Dialect) (keyword : String) (e : Option String) :
    (e.toList.flatMap (markersOf d)).length ≤ (marks d (guarded keyword e)).length := by
  cases e with
  | none => exact Nat.le_refl 0
  | some text => simp [guarded, word]

theorem length_marks_listed (d : Dialect) (keyword : String) (texts : List String) :
    (texts.flatMap (markersOf d)).length ≤ (marks d (listed keyword texts)).length := by
  cases texts with
  | nil => exact Nat.le_refl 0
  | cons t ts => simp [listed]

theorem placed_select {c : Config} {recursive : Bool} {ctes : List Cte} {s : Select} {a : AttachPoint}
    (h : selectPoint c recursive ctes s = .ok a) (clauses : List Clause) :
    s.tables ≠ [] ∧ Placed c.dialect (.query ⟨recursive, ctes, .select s, clauses⟩) a := by
  obtain ⟨inWith, hWith, h⟩ := bind_eq_ok.1 h
  obtain ⟨inItems, hItems, h⟩ := bind_eq_ok.1 h
  obtain ⟨inTables, hTables, h⟩ := bind_eq_ok.1 h
  obtain ⟨inWhere, hWhere, h⟩ := bind_eq_ok.1 h
  have hne : s.tables ≠ [] := by
    intro he
    rw [he] at h
    cases h
  have hpoint : a = ⟨.append, treeBindings s.tables, inWith + inItems + inTables, inWith + inItems + inTables + inWhere⟩ := by
    have he : s.tables.isEmpty = false := by simpa using hne
    rw [he] at h
    cases h
    rfl
  have hw := countAll_eq hWith
  have hi := countAll_eq hItems
  have ht := countAll_eq hTables
  have hs := length_marks_guarded c.dialect "WHERE" (Expr.printOption s.selection)
  rw [← countAll_eq hWhere] at hs
  subst hpoint
  have hl : layout (.query ⟨recursive, ctes, .select s, clauses⟩) = selectLayout recursive ctes s clauses := rfl
  refine ⟨hne, fun name hn => (nomatch hn), ?_, ?_⟩
  · show inWith + inItems + inTables ≤ _ + if s.tablesFirst then _ else 0
    rw [hl]
    unfold selectLayout
    cases hf : s.tablesFirst with
    | false => simp [-List.length_flatMap]; omega
    | true => cases hp : SelectItem.printList s.projection <;> simp [-List.length_flatMap, hp] at hi ⊢ <;> omega
  · show inWith + inItems + inTables + inWhere ≤ _
    rw [hl]
    unfold selectLayout
    cases hf : s.tablesFirst with
    | false => simp [-List.length_flatMap]; omega
    | true => cases hp : SelectItem.printList s.projection <;> simp [-List.length_flatMap, hp] at hi ⊢ <;> omega

/-- What is counted where an UPDATE takes additions. -/
theorem updatePoint_eq_ok {c : Config} {u : Update} {a : AttachPoint} (h : updatePoint c u = .ok a) :
    ∃ inTable inSets inSources inWhere, countAll c [u.table.print] = .ok inTable ∧
      countAll c (Assignment.printList u.assignments) = .ok inSets ∧
      countAll c (TableTree.printList u.sources) = .ok inSources ∧
      countAll c (Expr.printOption u.selection).toList = .ok inWhere ∧ (∀ name, a.slot ≠ .nameTarget name) ∧
      a.throughWhere = inTable + inSets + inSources + inWhere ∧
      a.beforeJoins = if u.sources.isEmpty then inTable
        else if u.sourcesFirst then inTable + inSources else inTable + inSets + inSources := by
  obtain ⟨inTable, hTable, h⟩ := bind_eq_ok.1 h
  obtain ⟨inSets, hSets, h⟩ := bind_eq_ok.1 h
  obtain ⟨inSources, hSources, h⟩ := bind_eq_ok.1 h
  obtain ⟨inWhere, hWhere, h⟩ := bind_eq_ok.1 h
  refine ⟨inTable, inSets, inSources, inWhere, hTable, hSets, hSources, hWhere, ?_⟩
  cases hs : u.sources.isEmpty with
  | false =>
    simp only [hs, Bool.not_false, if_true] at h
    cases h
    simp
  | true =>
    simp only [hs, Bool.not_true, Bool.false_eq_true, if_false] at h
    split at h
    · cases h; simp
    · cases h; simp

theorem placed_update {c : Config} {u : Update} {a : AttachPoint} (h : updatePoint c u = .ok a) :
    Placed c.dialect (.update u) a := by
  obtain ⟨inTable, inSets, inSources, inWhere, hTable, hSets, hSources, hWhere, hslot, hthrough, hbefore⟩ := updatePoint_eq_ok h
  have ht := countAll_eq hTable
  have hs := length_marks_listed c.dialect "SET" (Assignment.printList u.assignments)
  have hf := length_marks_listed c.dialect "FROM" (TableTree.printList u.sources)
  have hw := length_marks_guarded c.dialect "WHERE" (Expr.printOption u.selection)
  rw [← countAll_eq hSets] at hs
  rw [← countAll_eq hSources] at hf
  rw [← countAll_eq hWhere] at hw
  have hl : layout (.update u) = updateLayout u := rfl
  have hfirst : tablesFirst (.update u) = false := rfl
  by_cases he : u.sources = []
  · have hz : inSources = 0 := by
      have := countAll_eq hSources
      rw [he] at this
      exact this
    refine ⟨fun name hn => absurd hn (hslot name), ?_, ?_⟩
    · rw [hl, hfirst, hbefore]
      simp [-List.length_flatMap, updateLayout, he] at ht ⊢
      omega
    · rw [hl, hthrough]
      simp [-List.length_flatMap, updateLayout, he] at ht ⊢
      omega
  · refine ⟨fun name hn => absurd hn (hslot name), ?_, ?_⟩
    · rw [hl, hfirst, hbefore]
      cases hsf : u.sourcesFirst <;> simp [-List.length_flatMap, updateLayout, he, hsf] at ht ⊢ <;> omega
    · rw [hl, hthrough]
      cases hsf : u.sourcesFirst <;> simp [-List.length_flatMap, updateLayout, he, hsf] at ht ⊢ <;> omega

theorem placed_delete {c : Config} {d : Delete} {a : AttachPoint} (h : deletePoint c d = .ok a) :
    d.tables ≠ [] ∧ Placed c.dialect (.delete d) a := by
  have hne : d.tables ≠ [] := by
    intro he
    rw [deletePoint, he] at h
    cases h
  refine ⟨hne, ?_⟩
  have he : d.tables.isEmpty = false := by simpa using hne
  simp only [deletePoint, he, Bool.false_eq_true, if_false] at h
  obtain ⟨-, -, h⟩ := bind_eq_ok.1 h
  obtain ⟨inTargets, hTargets, h⟩ := bind_eq_ok.1 h
  obtain ⟨inTables, hTables, h⟩ := bind_eq_ok.1 h
  obtain ⟨inUsing, hUsing, h⟩ := bind_eq_ok.1 h
  obtain ⟨inWhere, hWhere, h⟩ := bind_eq_ok.1 h
  cases h
  have hd := countAll_eq hTargets
  have ht := countAll_eq hTables
  have hu := length_marks_listed c.dialect "USING" (TableTree.printList d.usingTables)
  have hw := length_marks_guarded c.dialect "WHERE" (Expr.printOption d.selection)
  rw [← countAll_eq hUsing] at hu
  rw [← countAll_eq hWhere] at hw
  have hl : layout (.delete d) = deleteLayout d := rfl
  have hfirst : tablesFirst (.delete d) = false := rfl
  refine ⟨fun name hn => ⟨d, rfl, ?_⟩, ?_, ?_⟩
  · -- a target is given only where none is named
    simp only [deleteSlot] at hn
    split at hn
    · cases hn
    · rename_i h1
      have h2 : d.usingTables = [] ∧ d.targets = [] := by simpa using h1
      exact h2.2
  · rw [hl, hfirst]
    simp [-List.length_flatMap, deleteLayout]
    omega
  · rw [hl]
    simp [-List.length_flatMap, deleteLayout]
    omega

/-- The statements that take additions, and where. -/
theorem placed {c : Config} {st : Statement} {a : AttachPoint} (h : attachPoint c st = .ok a) : Placed c.dialect st a := by
  unfold attachPoint at h
  split at h
  · exact (placed_select h _).2
  · cases h
  · exact placed_update h
  · exact (placed_delete h).2
  · cases h
  · cases h

theorem Placed.target_eq_nil {d : Dialect} {st : Statement} {a : AttachPoint} (h : Placed d st a)
    (hst : ∀ del, st ≠ .delete del) : a.slot.target = [] := by
  cases hs : a.slot with
  | nameTarget name =>
    obtain ⟨del, he, -⟩ := h.target name hs
    exact absurd he (hst del)
  | append => rfl
  | refuse why => rfl

/-! ## The merged text -/

theorem joined_withJoins {c : Config} {st st' : Statement} {a : AttachPoint} {joins : List Join}
    (ha : attachPoint c st = .ok a) (hn : namesTables st = true) (h : withJoins a joins st = .ok st') :
    Joined (layout st) (layout st') (if joins.isEmpty then [] else a.slot.target) (Join.printList joins) ∧
      namesTables st' = true := by
  unfold withJoins at h
  split at h
  · rename_i he
    cases h
    rw [if_pos he, List.isEmpty_iff.1 he]
    exact ⟨⟨rfl, by simp [Join.printList], rfl, rfl, rfl⟩, hn⟩
  · rename_i he
    have hadd : addJoins joins a.slot st = st' := by
      split at h
      · cases h
      · cases h; rfl
    have hp := placed ha
    rw [if_neg he, ← hadd]
    unfold attachPoint at ha
    split at ha
    · rw [hp.target_eq_nil (by simp)]
      obtain ⟨hne, -⟩ := placed_select ha []
      refine ⟨joined_select _ _ _ _ joins hne, ?_⟩
      simpa [addJoins, namesTables] using changeLast_ne_nil hne
    · cases ha
    · rename_i u
      rw [hp.target_eq_nil (by simp)]
      obtain ⟨u', hu, hj⟩ := joined_update u joins a.slot
      rw [hu]
      exact ⟨hj, rfl⟩
    · rename_i d
      have htargets : ∀ name, a.slot = .nameTarget name → d.targets = [] := by
        intro name hs
        obtain ⟨del, he, ht⟩ := hp.target name hs
        cases he
        exact ht
      obtain ⟨d', hd, hj, hn'⟩ := joined_delete d joins (placed_delete ha).1 htargets
      rw [hd]
      exact ⟨hj, hn' hn⟩
    · cases ha
    · cases ha

/-- The merged text is the statement's pieces with the additions between them. -/
theorem print_merged {c : Config} {st st' : Statement} {a : AttachPoint} {joins : List Join}
    (ha : attachPoint c st = .ok a) (hn : namesTables st = true) (h : withJoins a joins st = .ok st')
    (predicate : Option Expr) :
    (withPredicate predicate st').print.toList = charsOf ((layout st).merged
      (if joins.isEmpty then [] else a.slot.target) (Join.printList joins) predicate) := by
  obtain ⟨hj, hn'⟩ := joined_withJoins ha hn h
  apply charsOf_of_charsAfter
  cases predicate with
  | none =>
    rw [withPredicate, ← charsAfter_layout hn']
    simp only [Layout.merged, Layout.pieces, charsAfter_append, hj.opening, hj.head, hj.middle, hj.selection, hj.tail,
      conjoined, List.append_assoc]
  | some p =>
    obtain ⟨hl, hnp⟩ := layout_addPredicate p hn'
    rw [withPredicate, ← charsAfter_layout hnp, hl]
    simp only [Layout.merged, Layout.pieces, charsAfter_append, hj.opening, hj.head, hj.middle, hj.selection, hj.tail,
      charsAfter_conjoined, List.append_assoc]

/-! ## The markers of a merged text -/

theorem markersOf_parenthesized {d : Dialect} {text : String} (h : Apart d text) :
    markersOf d ("(" ++ text ++ ")") = markersOf d text := by
  have hr : Lexer.Reads d ("(" ++ text ++ ")").toList (.symbol "(" :: (tokensOf d text ++ [.symbol ")"])) := by
    have h2 := (Lexer.Reads.nil d).append (b := '(') rfl (h.append (b := ')') rfl (.nil d))
    simpa using h2
  have hc : Parameter.colonFirst (tokensOf d text) = true → Parameter.endsOperand (some (.symbol "(")) = false :=
    fun _ => rfl
  rw [markersOf, tokensOf, hr.lex_eq, Option.getD_some]
  show markerTexts (some (.symbol "(")) (tokensOf d text ++ [.symbol ")"]) = _
  rw [Parameter.markerTexts_append _ _ rfl, Parameter.markerTexts_context hc]
  exact List.append_nil _

theorem markersOf_parenthesize {d : Dialect} {e : Expr} (h : Apart d e.print) :
    markersOf d (parenthesize e).print = markersOf d e.print := by
  unfold parenthesize
  split
  · rfl
  · rw [Expr.print]
    exact markersOf_parenthesized h

theorem marks_conjoined {d : Dialect} {existing predicate : Option Expr} (he : ∀ e ∈ existing, Apart d e.print)
    (hp : ∀ p ∈ predicate, Apart d p.print) :
    marks d (conjoined existing predicate) =
      marks d (guarded "WHERE" (Expr.printOption existing)) ++ predicate.toList.flatMap fun p => markersOf d p.print := by
  have hwhere : markersOf d "WHERE" = [] := by cases d <;> decide +kernel
  have hand : markersOf d "AND" = [] := by cases d <;> decide +kernel
  cases predicate with
  | none => simp [conjoined]
  | some p =>
    cases existing with
    | none => simp [conjoined, guarded, Expr.printOption, hwhere]
    | some e =>
      simp [conjoined, guarded, Expr.printOption, hwhere, hand, word, markersOf_parenthesize (he e rfl),
        markersOf_parenthesize (hp p rfl)]

theorem map_marker_number (i : Nat) (origins : List Template.Origin) (ms : List Parameter.Marker) :
    (Parameter.number i origins ms).map Parameter.marker = ms.map Parameter.Marker.text := by
  induction ms generalizing i origins with
  | nil => rfl
  | cons m ms ih =>
    unfold Parameter.number
    split
    · rw [List.map_cons, ih, List.map_cons]
    · rw [List.map_cons, ih, List.map_cons]

/-- The parameters of a template have the markers of its prepared text. -/
theorem map_marker_parameters {c : Config} {template : String} {p : Parsed} (h : parse c template = .ok p) :
    ∃ ps, parameters c template = .ok ps ∧ ps.map Parameter.marker = markersOf c.dialect p.normalized.text := by
  obtain ⟨hn, hs⟩ := Template.parse_eq_ok h
  obtain ⟨tokens, ht⟩ := Template.tokenize_of_parseSingle hs
  rw [← hn] at ht
  refine ⟨Parameter.resolve tokens p.normalized.origins, ?_, ?_⟩
  · rw [parameters, h]
    show (tokenize c p.normalized.text >>= _) = _
    rw [tokenize, ht]
    rfl
  · rw [Parameter.resolve, map_marker_number, markersOf_eq ht]

/-- The placeholders of a fragment, none if there is no fragment. -/
def fragmentMarks (c : Config) (fragment : Option String) : List String :=
  match fragment with
  | none => []
  | some text => markersOf c.dialect (fragmentText c text)

/-- The parameters of a merged text are those of the template, then those of the joins, then those of the predicate. -/
def KeepsMarkers (c : Config) (template : String) (join predicate : Option String) (text : String) : Prop :=
  ∃ own merged, parameters c template = .ok own ∧ parameters c text = .ok merged ∧
    merged.map Parameter.marker = own.map Parameter.marker ++ fragmentMarks c join ++ fragmentMarks c predicate

theorem length_fragmentMarks {c : Config} {join predicate : Option String} {adds : Additions}
    (h : readAdditions c join predicate = .ok adds) :
    adds.joinMarkers = (fragmentMarks c join).length ∧ adds.predicateMarkers = (fragmentMarks c predicate).length := by
  obtain ⟨hj, hp⟩ := readAdditions_eq_ok h
  constructor
  · cases join with
    | none => exact hj
    | some text => exact countMarkers_eq hj
  · cases predicate with
    | none => exact hp
    | some text => exact countMarkers_eq hp

/-- The placeholders before and after the additions allow for them. -/
theorem checkMarkers_eq_ok {total : Nat} {a : AttachPoint} {adds : Additions} (h : checkMarkers total a adds = .ok ()) :
    (adds.joinMarkers = 0 ∨ total ≤ a.beforeJoins) ∧ (adds.predicateMarkers = 0 ∨ total ≤ a.throughWhere) := by
  unfold checkMarkers at h
  simp only at h
  split at h
  · cases h
  · rename_i hj
    split at h
    · cases h
    · rename_i hp
      simp only [Bool.and_eq_true, decide_eq_true_eq, not_and, not_lt] at hj hp
      omega

section

variable {c : Config} {template text : String} {join predicate : Option String}

/-- What was merged as it is printed: the placeholders of the joins, and those of the predicate. -/
def Stages.joinMarks (s : Stages c template join predicate text) : List String :=
  (Join.printList s.adds.joins).flatMap (markersOf c.dialect)

def Stages.predicateMarks (s : Stages c template join predicate text) : List String :=
  s.adds.predicate.toList.flatMap fun p => markersOf c.dialect p.print

/-- The pieces of the merged text. -/
def Stages.pieces (s : Stages c template join predicate text) : List Piece :=
  (layout s.parsed.statement).merged (if s.adds.joins.isEmpty then [] else s.point.slot.target)
    (Join.printList s.adds.joins) s.adds.predicate

/-- The statement is read piece by piece, as it was and with the additions, and normalization leaves the merged text as
it is. -/
structure Clear (s : Stages c template join predicate text) : Prop where
  named : namesTables s.parsed.statement = true
  own : Legible c.dialect none (layout s.parsed.statement).pieces
  merged : Legible c.dialect none s.pieces
  added : ∀ p ∈ s.adds.predicate, Apart c.dialect p.print
  target : marks c.dialect s.point.slot.target = []
  settled : (prepare c text).text = text

/-- The placeholders that stand before the joins, as the statement is printed, and those that stand after them. -/
def Stages.marksBefore (s : Stages c template join predicate text) : List String :=
  let l := layout s.parsed.statement
  marks c.dialect (l.opening ++ l.head)

def Stages.marksAfter (s : Stages c template join predicate text) : List String :=
  let l := layout s.parsed.statement
  marks c.dialect (l.middle ++ guarded "WHERE" (Expr.printOption l.selection) ++ l.tail)

/-- Printing gains no placeholders. -/
structure Bounded (s : Stages c template join predicate text) : Prop where
  statement : (markersOf c.dialect s.parsed.statement.print).length ≤ (markersOf c.dialect s.parsed.normalized.text).length
  joins : s.joinMarks.length ≤ (fragmentMarks c join).length
  predicate : s.predicateMarks.length ≤ (fragmentMarks c predicate).length

theorem Clear.selection {s : Stages c template join predicate text} (h : Clear s) :
    ∀ e ∈ (layout s.parsed.statement).selection, Apart c.dialect e.print := by
  intro e he
  have hmem : word e.print ∈ (layout s.parsed.statement).pieces := by
    unfold Layout.pieces
    rw [Option.mem_def] at he
    rw [he]
    simp [guarded, Expr.printOption]
  have ha := h.own.apart hmem
  rwa [show (word e.print).text = e.print from rfl] at ha

theorem Clear.markersOf_print {s : Stages c template join predicate text} (h : Clear s) :
    markersOf c.dialect s.parsed.statement.print = s.marksBefore ++ s.marksAfter := by
  have hprint : markersOf c.dialect s.parsed.statement.print = marks c.dialect (layout s.parsed.statement).pieces :=
    h.own.markersOf_eq (print_eq_charsOf h.named)
  rw [hprint]
  simp only [Layout.pieces, Stages.marksBefore, Stages.marksAfter, marks_append, List.append_assoc]

theorem Clear.markersOf_text {s : Stages c template join predicate text} (h : Clear s) :
    markersOf c.dialect text = marks c.dialect s.pieces :=
  h.merged.markersOf_eq ((congrArg String.toList s.text_eq).trans (print_merged s.point_eq h.named s.joined_eq _))

/-- The guard of a merge leaves nothing after additions that have placeholders, but for what a SELECT written after its
tables selects. -/
theorem nothing_after {s : Stages c template join predicate text} (h : Clear s) (hb : Bounded s) :
    (tablesFirst s.parsed.statement = false → s.joinMarks = [] ∨ s.marksAfter = []) ∧
      (s.predicateMarks = [] ∨ marks c.dialect (layout s.parsed.statement).tail = []) := by
  obtain ⟨hjoins, hpredicate⟩ := length_fragmentMarks s.adds_eq
  obtain ⟨hcheckJ, hcheckP⟩ := checkMarkers_eq_ok s.check_eq
  have htotal : Parameter.count s.tokens = (markersOf c.dialect s.parsed.normalized.text).length := by
    rw [markersOf_eq s.tokenize_eq, List.length_map]
    rfl
  -- all that is printed is no more than what was counted, so nothing is left after a part that is as long
  have hall := congrArg List.length h.markersOf_print
  have hbefore := (placed s.point_eq).before
  have hthrough := (placed s.point_eq).through
  simp only [Stages.marksBefore, Stages.marksAfter, marks_append, List.length_append] at hall hbefore hthrough
  obtain ⟨hstatement, hj, hq⟩ := hb
  simp only [← List.length_eq_zero_iff, Stages.marksAfter, marks_append, List.length_append]
  constructor
  · intro hfirst
    rw [hfirst, if_neg (by simp)] at hbefore
    omega
  · omega

/-- A merge puts the placeholders of the joins where it puts the joins, and those of the predicate after all others. -/
theorem markersOf_merged {s : Stages c template join predicate text} (h : Clear s) (hb : Bounded s) :
    markersOf c.dialect text = s.marksBefore ++ s.joinMarks ++ s.marksAfter ++ s.predicateMarks := by
  have htarget : marks c.dialect (if s.adds.joins.isEmpty then [] else s.point.slot.target) = [] := by
    split
    · rfl
    · exact h.target
  have hpieces : marks c.dialect s.pieces =
      s.marksBefore ++ s.joinMarks ++ (marks c.dialect (layout s.parsed.statement).middle ++
        (marks c.dialect (guarded "WHERE" (Expr.printOption (layout s.parsed.statement).selection)) ++ s.predicateMarks ++
          marks c.dialect (layout s.parsed.statement).tail)) := by
    simp only [Stages.pieces, Layout.merged, marks_append, htarget, marks_row, marks_conjoined h.selection h.added,
      Stages.marksBefore, Stages.joinMarks, Stages.predicateMarks, List.nil_append, List.append_assoc]
  rw [h.markersOf_text, hpieces, Stages.marksAfter]
  obtain hp | ht := (nothing_after h hb).2
  · simp only [hp, marks_append, List.append_nil, List.append_assoc]
  · simp only [ht, marks_append, List.append_nil, List.append_assoc]

/-- Whether a statement and the fragments are printed with the placeholders that they were read with. -/
structure Faithful (s : Stages c template join predicate text) : Prop where
  statement : markersOf c.dialect s.parsed.statement.print = markersOf c.dialect s.parsed.normalized.text
  joins : s.joinMarks = fragmentMarks c join
  predicate : s.predicateMarks = fragmentMarks c predicate

/-- Whether placeholders of the joins come to stand before others of the statement. -/
def Overtakes (s : Stages c template join predicate text) : Prop := s.joinMarks ≠ [] ∧ s.marksAfter ≠ []

theorem eq_of_append_eq {xs xs' ys ys' : List String} (h : xs ++ ys = xs' ++ ys') (hx : xs.length ≤ xs'.length)
    (hy : ys.length ≤ ys'.length) : xs = xs' ∧ ys = ys' := by
  have hlen := congrArg List.length h
  simp only [List.length_append] at hlen
  exact List.append_inj h (by omega)

/-- A merge keeps the parameters in order if and only if the statement with its joins, and the predicate, are printed
with the placeholders in order. -/
theorem keepsMarkers_iff {s : Stages c template join predicate text} (h : Clear s) (hb : Bounded s) :
    KeepsMarkers c template join predicate text ↔
      s.marksBefore ++ s.joinMarks ++ s.marksAfter = markersOf c.dialect s.parsed.normalized.text ++ fragmentMarks c join ∧
      s.predicateMarks = fragmentMarks c predicate := by
  obtain ⟨own, hown, hownMarks⟩ := map_marker_parameters s.parse_eq
  obtain ⟨st, hst⟩ := s.again
  have hparse : parse c text = .ok ⟨prepare c text, st⟩ := by
    rw [parse, h.settled, hst]
    rfl
  obtain ⟨merged, hmerged, hmergedMarks⟩ := map_marker_parameters hparse
  have hmarks : merged.map Parameter.marker = markersOf c.dialect text := by
    rw [hmergedMarks]
    exact congrArg _ h.settled
  rw [markersOf_merged h hb] at hmarks
  constructor
  · rintro ⟨own', merged', hown', hmerged', hkeeps⟩
    cases hown.symm.trans hown'
    cases hmerged.symm.trans hmerged'
    rw [hmarks, hownMarks] at hkeeps
    -- neither side of the predicate has grown, so both texts divide at the same place
    have hstatement := hb.statement
    rw [h.markersOf_print] at hstatement
    refine eq_of_append_eq hkeeps ?_ hb.predicate
    have hjoins := hb.joins
    simp only [List.length_append] at hstatement ⊢
    omega
  · rintro ⟨hjoined, hp⟩
    refine ⟨own, merged, hown, hmerged, ?_⟩
    rw [hmarks, hownMarks, hjoined, hp]

/-- A merge keeps the parameters in order if and only if the statement with its joins, and the predicate, are printed
with the placeholders in order. Where no join overtakes others, this is so if what was read is printed with its
placeholders in order; and where it is, those that a join overtakes must not tell the difference. Only in a SELECT that
is written after its tables is there anything to overtake. -/
theorem keepsMarkers_iff_faithful (c : Config) (template : String) (join predicate : Option String) (text : String)
    (s : Stages c template join predicate text) (h : Clear s) (hb : Bounded s) :
    (KeepsMarkers c template join predicate text ↔
      s.marksBefore ++ s.joinMarks ++ s.marksAfter = markersOf c.dialect s.parsed.normalized.text ++ fragmentMarks c join ∧
      s.predicateMarks = fragmentMarks c predicate) ∧
    (¬Overtakes s → (KeepsMarkers c template join predicate text ↔ Faithful s)) ∧
    (Faithful s → (KeepsMarkers c template join predicate text ↔ s.joinMarks ++ s.marksAfter = s.marksAfter ++ s.joinMarks)) ∧
    (Overtakes s → tablesFirst s.parsed.statement = true) := by
  have hkeeps := keepsMarkers_iff h hb
  refine ⟨hkeeps, fun hover => ?_, fun hfaithful => ?_, fun hover => ?_⟩
  · have hmoved : s.marksBefore ++ s.joinMarks ++ s.marksAfter = markersOf c.dialect s.parsed.statement.print ++ s.joinMarks := by
      rw [h.markersOf_print]
      obtain hj | ha : s.joinMarks = [] ∨ s.marksAfter = [] := by
        rw [Overtakes, not_and_or, not_not, not_not] at hover
        exact hover
      · simp only [hj, List.append_nil]
      · simp only [ha, List.append_nil]
    rw [hkeeps, hmoved]
    -- and again at the joins, which now come last
    constructor
    · rintro ⟨hjoined, hp⟩
      obtain ⟨hs, hj⟩ := eq_of_append_eq hjoined hb.statement hb.joins
      exact ⟨hs, hj, hp⟩
    · rintro ⟨hs, hj, hp⟩
      exact ⟨by rw [hs, hj], hp⟩
  · obtain ⟨hs, hj, hp⟩ := hfaithful
    rw [hkeeps, ← hs, ← hj, h.markersOf_print, List.append_assoc, List.append_assoc, List.append_cancel_left_eq]
    exact and_iff_left hp
  · by_contra hfirst
    obtain hj | ha := (nothing_after h hb).1 (Bool.eq_false_iff.2 hfirst)
    · exact hover.1 hj
    · exact hover.2 ha

end

theorem apart_of_prints {d : Dialect} {text : String} {ts : List Token} (h : Prints d text ts) : Apart d text := by
  obtain ⟨us, hr, -⟩ := h
  rw [Apart, tokensOf, hr.lex_eq]
  exact hr

theorem legible_row {d : Dialect} {texts : List String}
    (h : ∀ t ∈ texts, (∃ ts, Prints d t ts) ∧ Parameter.colonFirst (tokensOf d t) = false) : Legible d none (row texts) := by
  refine Piece.legible_of_forall (fun x hx => ?_) none
  obtain ⟨t, ht, rfl⟩ := List.mem_map.1 hx
  obtain ⟨⟨ts, hts⟩, hc⟩ := h t ht
  exact ⟨apart_of_prints hts, hc⟩

/-- `SELECT $1 FROM t`. -/
def selectMarker : Statement :=
  .query ⟨false, [], .select ⟨false, [], [.expr (.value (.placeholder "$1")) none], none,
    [⟨.table [⟨"t", none⟩] none ⟨[], false, []⟩ [], []⟩], [], none, [], none, []⟩, []⟩

/-- The words of `SELECT $1 FROM t WHERE b = $2` are legible. -/
theorem legible_selectMarker (texts : List String) (h : texts ⊆ ["SELECT", "$1", "FROM", "t", "WHERE", "b = $2"]) :
    Legible .postgresql none (row texts) := by
  have hprints : ∀ t ∈ ["SELECT", "$1", "FROM", "t", "WHERE", "b = $2"], ∃ ts, Prints .postgresql t ts := by
    simp only [List.forall_mem_cons, List.not_mem_nil, false_imp_iff, implies_true, and_true]
    exact ⟨⟨_, prints_kw _ (by decide)⟩, ⟨_, prints_value (v := .placeholder "$1") (by decide +kernel)⟩,
      ⟨_, prints_kw _ (by decide)⟩, ⟨_, prints_ident (i := ⟨"t", none⟩) (by decide +kernel)⟩, ⟨_, prints_kw _ (by decide)⟩,
      ⟨_, prints_expr (e := .binary (.ident ⟨"b", none⟩) .eq (.value (.placeholder "$2"))) (by decide +kernel)⟩⟩
  have hcolon : ∀ t ∈ ["SELECT", "$1", "FROM", "t", "WHERE", "b = $2"],
      Parameter.colonFirst (tokensOf .postgresql t) = false := by decide +kernel
  exact legible_row fun t ht => ⟨hprints t (h ht), hcolon t (h ht)⟩

/-- A placeholder of the template and one of the predicate. -/
theorem keepsMarkers_selectMarker :
    KeepsMarkers ⟨.postgresql, true⟩ "SELECT $1 FROM t" none (some "b = $2") "SELECT $1 FROM t WHERE b = $2" := by
  have hmerge : merge ⟨.postgresql, true⟩ "SELECT $1 FROM t" none (some "b = $2") = .ok "SELECT $1 FROM t WHERE b = $2" :=
    eq_ok_of_toOption (by decide +kernel)
  obtain ⟨s⟩ := exists_stages hmerge
  -- what was read, as far as it matters
  have hst : s.parsed.statement = selectMarker := by
    obtain ⟨-, hs⟩ := Template.parse_eq_ok s.parse_eq
    have hprint : (prepare ⟨.postgresql, true⟩ "SELECT $1 FROM t").text = selectMarker.print := by decide +kernel
    rw [hprint, Template.parseSingle_print (by decide +kernel)] at hs
    exact (Except.ok.inj hs).symm
  have hnormal : s.parsed.normalized.text = "SELECT $1 FROM t" := by
    rw [(Template.parse_eq_ok s.parse_eq).1]
    decide +kernel
  obtain ⟨hjoins, p, hp, hprint⟩ : s.adds.joins = [] ∧ ∃ p, s.adds.predicate = some p ∧ p.print = "b = $2" := by
    have heval : (readAdditions ⟨.postgresql, true⟩ none (some "b = $2")).toOption.map
        (fun a => (a.joins.isEmpty, a.predicate.map Expr.print)) = some (true, some "b = $2") := by decide +kernel
    rw [s.adds_eq] at heval
    simpa [Except.toOption] using heval
  have hslot : s.point.slot.target = [] := by
    have heval : (attachPoint ⟨.postgresql, true⟩ selectMarker).toOption.map (·.slot) = some .append := by decide +kernel
    rw [← hst, s.point_eq] at heval
    rw [show s.point.slot = .append by simpa [Except.toOption] using heval]
    rfl
  have hmarks : s.joinMarks = [] ∧ s.predicateMarks = fragmentMarks ⟨.postgresql, true⟩ (some "b = $2") := by
    rw [Stages.joinMarks, Stages.predicateMarks, hjoins, hp, Option.toList_some, List.flatMap_singleton, hprint]
    exact ⟨rfl, by decide +kernel⟩
  have hpieces : s.pieces = row ["SELECT", "$1", "FROM", "t", "WHERE", p.print] := by
    rw [Stages.pieces, hst, hjoins, hp]
    rfl
  have hstatement : markersOf .postgresql s.parsed.statement.print = markersOf .postgresql s.parsed.normalized.text := by
    rw [hst, hnormal]
    rfl
  have hclear : Clear s := by
    refine ⟨by rw [hst]; decide +kernel, ?_, ?_, ?_, by rw [hslot]; rfl, by decide +kernel⟩
    · rw [hst]
      exact legible_selectMarker ["SELECT", "$1", "FROM", "t"] (by simp)
    · rw [hpieces, hprint]
      exact legible_selectMarker _ (List.Subset.refl _)
    · intro q hq
      rw [hp, Option.mem_some_iff] at hq
      rw [← hq, hprint]
      exact (legible_selectMarker ["b = $2"] (by simp)).1
  have hbounded : Bounded s := by
    exact ⟨by rw [hstatement], by rw [hmarks.1]; exact Nat.zero_le _, by rw [hmarks.2]⟩
  have hover : ¬Overtakes s := fun h => h.1 hmarks.1
  exact ((keepsMarkers_iff_faithful _ _ _ _ _ s hclear hbounded).2.1 hover).2 ⟨hstatement, hmarks.1, hmarks.2⟩

/-- A merge does not keep the markers if the template has `before`, the fragments `added` and the text others. -/
theorem not_keepsMarkers_of_marks {c : Config} {template text : String} {join predicate : Option String}
    (before added after : List String)
    (h : (merge c template join predicate).toOption = some text ∧
      (parameters c template).toOption.map (·.map Parameter.marker) = some before ∧
      (parameters c text).toOption.map (·.map Parameter.marker) = some after ∧
      fragmentMarks c join ++ fragmentMarks c predicate = added) (hne : after ≠ before ++ added) :
    merge c template join predicate = .ok text ∧ ¬KeepsMarkers c template join predicate text := by
  obtain ⟨hmerge, hbefore, hafter, hadded⟩ := h
  refine ⟨eq_ok_of_toOption hmerge, ?_⟩
  rintro ⟨own, merged, hown, hmerged, hkeeps⟩
  rw [hown] at hbefore
  rw [hmerged] at hafter
  have hown : own.map Parameter.marker = before := Option.some.inj hbefore
  have hmerged : merged.map Parameter.marker = after := Option.some.inj hafter
  rw [hown, hmerged, List.append_assoc, hadded] at hkeeps
  exact hne hkeeps

/-- OFFSET is printed after LIMIT, wherever it was written; and joins are written before what is selected, if the tables
are. -/
theorem not_keepsMarkers :
    (merge ⟨.postgresql, true⟩ "SELECT a FROM t OFFSET $1 LIMIT $2" none (some "b = 1") =
        .ok "SELECT a FROM t WHERE b = 1 LIMIT $2 OFFSET $1" ∧
      ¬KeepsMarkers ⟨.postgresql, true⟩ "SELECT a FROM t OFFSET $1 LIMIT $2" none (some "b = 1")
        "SELECT a FROM t WHERE b = 1 LIMIT $2 OFFSET $1") ∧
    (merge ⟨.generic, true⟩ "FROM t SELECT $1" (some "JOIN u ON u.a = $2") none =
        .ok "FROM t JOIN u ON u.a = $2 SELECT $1" ∧
      ¬KeepsMarkers ⟨.generic, true⟩ "FROM t SELECT $1" (some "JOIN u ON u.a = $2") none
        "FROM t JOIN u ON u.a = $2 SELECT $1") := by
  constructor
  · exact not_keepsMarkers_of_marks ["$1", "$2"] [] ["$2", "$1"] (by decide +kernel) (by decide)
  · exact not_keepsMarkers_of_marks ["$1"] ["$2"] ["$2", "$1"] (by decide +kernel) (by decide)

end SqlTemplate.Merge
