/-
What a merge changes, and what it refuses. Joins extend one list of joins: that of the last relation of a SELECT, of the
FROM list of an UPDATE, of the USING list of a DELETE or of the tables it deletes from, or that of the target of an
UPDATE. A DELETE that names no targets names its first table then. A predicate changes WHERE. Nothing else is changed,
and joins that no place takes are refused; but placeholders are counted in printed pieces of the statement before that,
and a piece that is no text of the dialect is a failure to parse.
-/
import SqlTemplate.Proofs.Merge.Fragment

namespace SqlTemplate.Merge

open Template (parse tokenize)

/-! ## Joins -/

/-- What a table goes by in a statement: its alias, else its name. -/
inductive GoesBy : Factor → ObjectName → Prop
  | aliased (name : ObjectName) (a : TableAlias) (details : TableDetails) (clauses : List Clause) :
    GoesBy (.table name (some a) details clauses) [a.name]
  | named (name : ObjectName) (details : TableDetails) (clauses : List Clause) :
    GoesBy (.table name none details clauses) name
  | aliasedCall (name : ObjectName) (args : List Arg) (a : TableAlias) (details : TableDetails) (clauses : List Clause) :
    GoesBy (.tableCall name args (some a) details clauses) [a.name]
  | namedCall (name : ObjectName) (args : List Arg) (details : TableDetails) (clauses : List Clause) :
    GoesBy (.tableCall name args none details clauses) name

theorem goesBy_of_deleteTarget? {f : Factor} {name : ObjectName} (h : deleteTarget? f = some name) : GoesBy f name := by
  unfold deleteTarget? at h
  split at h <;> cases h
  · exact .aliased _ _ _ _
  · exact .named _ _ _
  · exact .aliasedCall _ _ _ _ _
  · exact .namedCall _ _ _ _

/-- The second statement is the first one with the joins after those that the dialect puts them after. -/
inductive Extends (d : Dialect) (joins : List Join) : Statement → Statement → Prop
  | select {recursive : Bool} {ctes : List Cte} {s : Select} {clauses : List Clause} {first : List TableTree}
      {last : TableTree} (h : s.tables = first ++ [last]) :
    Extends d joins (.query ⟨recursive, ctes, .select s, clauses⟩)
      (.query ⟨recursive, ctes, .select { s with tables := first ++ [appendJoins joins last] }, clauses⟩)
  | updateSources {u : Update} {first : List TableTree} {last : TableTree} (h : u.sources = first ++ [last]) :
    Extends d joins (.update u) (.update { u with sources := first ++ [appendJoins joins last] })
  | updateTarget {u : Update} (h : u.sources = []) (hd : d = .mysql) :
    Extends d joins (.update u) (.update { u with table := appendJoins joins u.table })
  | deleteUsing {del : Delete} {first : List TableTree} {last : TableTree} (ht : del.tables ≠ [])
      (h : del.usingTables = first ++ [last]) :
    Extends d joins (.delete del) (.delete { del with usingTables := first ++ [appendJoins joins last] })
  | deleteListed {del : Delete} {first : List TableTree} {last : TableTree} (hu : del.usingTables = [])
      (hl : del.targets ≠ []) (h : del.tables = first ++ [last]) :
    Extends d joins (.delete del) (.delete { del with tables := first ++ [appendJoins joins last] })
  | deleteNamed {del : Delete} {first : List TableTree} {last t : TableTree} {name : ObjectName} (hu : del.usingTables = [])
      (hl : del.targets = []) (hd : d = .mysql ∨ d = .mssql) (hc : del.clauses = []) (ht : del.tables.head? = some t)
      (hn : GoesBy t.relation name) (h : del.tables = first ++ [last]) :
    Extends d joins (.delete del)
      (.delete { del with targets := [name], tables := first ++ [appendJoins joins last] })

variable {c : Config} {st st' : Statement} {joins : List Join} {a : AttachPoint}

theorem Extends.takesJoins {d : Dialect} (h : Extends d joins st st') : takesJoins st = true := by
  cases h with
  | select h => simp [Merge.takesJoins, h]
  | updateSources | updateTarget => rfl
  | deleteUsing ht => simpa [Merge.takesJoins] using ht
  | deleteListed _ _ h | deleteNamed _ _ _ _ _ _ h => simp [Merge.takesJoins, h]

theorem changeLast_concat {α : Type} (f : α → α) (first : List α) (last : α) :
    changeLast f (first ++ [last]) = first ++ [f last] := by
  induction first with
  | nil => rfl
  | cons x first ih =>
    cases first with
    | nil => rfl
    | cons y first => exact congrArg (x :: ·) ih

theorem exists_concat {α : Type} {xs : List α} (h : xs ≠ []) : ∃ first last, xs = first ++ [last] :=
  ⟨xs.dropLast, xs.getLast h, (List.dropLast_append_getLast h).symm⟩

/-- A DELETE without targets and without USING takes joins only if it can name its first table. -/
theorem exists_nameTarget {d : Dialect} {del : Delete} (hu : del.usingTables = []) (hl : del.targets = [])
    (hs : ∀ why, deleteSlot d del ≠ .refuse why) :
    ∃ t name, (d = .mysql ∨ d = .mssql) ∧ del.clauses = [] ∧ del.tables.head? = some t ∧ GoesBy t.relation name ∧
      deleteSlot d del = .nameTarget name := by
  have hdialect : d.multiTableDelete = true := by
    by_contra hd
    have hslot : deleteSlot d del = .refuse ("the " ++ d.name ++ " dialect cannot join onto the target of a DELETE") := by
      simp [deleteSlot, hu, hl, hd]
    exact hs _ hslot
  have hclauses : del.clauses = [] := by
    by_contra hc
    have hslot : deleteSlot d del =
        .refuse "a DELETE with ORDER BY or LIMIT cannot be turned into a multi-table DELETE" := by
      simp [deleteSlot, hu, hl, hdialect, hc]
    exact hs _ hslot
  cases hname : del.tables.head?.bind fun t => deleteTarget? t.relation with
  | none =>
    have hslot : deleteSlot d del = .refuse "DELETE target is not a plain table" := by
      simp [deleteSlot, hu, hl, hdialect, hclauses, hname]
    exact absurd hslot (hs _)
  | some name =>
    obtain ⟨t, hhead, htarget⟩ := Option.bind_eq_some_iff.1 hname
    have hslot : deleteSlot d del = .nameTarget name := by
      simp [deleteSlot, hu, hl, hdialect, hclauses, hname]
    refine ⟨t, name, ?_, hclauses, hhead, goesBy_of_deleteTarget? htarget, hslot⟩
    simpa [Dialect.multiTableDelete] using hdialect

theorem extends_deleteSlot {d : Dialect} {del : Delete} (ht : del.tables ≠ []) (hs : ∀ why, deleteSlot d del ≠ .refuse why) :
    Extends d joins (.delete del) (addJoins joins (deleteSlot d del) (.delete del)) := by
  obtain ⟨first, last, hlast⟩ := exists_concat ht
  by_cases hu : del.usingTables = []
  · by_cases hl : del.targets = []
    · obtain ⟨t, name, hd, hc, hhead, hname, hslot⟩ := exists_nameTarget hu hl hs
      have hadd : addJoins joins (.nameTarget name) (.delete del) =
          .delete { del with targets := [name], tables := first ++ [appendJoins joins last] } := by
        simp [addJoins, hu, hl, hlast, changeLast_concat]
      rw [hslot, hadd]
      exact .deleteNamed hu hl hd hc hhead hname hlast
    · have hslot : deleteSlot d del = .append := by simp [deleteSlot, hl]
      have hadd : addJoins joins .append (.delete del) = .delete { del with tables := first ++ [appendJoins joins last] } := by
        simp [addJoins, hu, hlast, changeLast_concat]
      rw [hslot, hadd]
      exact .deleteListed hu hl hlast
  · obtain ⟨first, last, hlast⟩ := exists_concat hu
    have hslot : deleteSlot d del = .append := by simp [deleteSlot, hu]
    have hadd : addJoins joins .append (.delete del) =
        .delete { del with usingTables := first ++ [appendJoins joins last] } := by
      simp [addJoins, hlast, changeLast_concat]
    rw [hslot, hadd]
    exact .deleteUsing ht hlast

/-- A slot that refuses nothing is where the dialect puts joins. -/
theorem extends_addJoins {d : Dialect} (h : takesJoins st = true) (hs : ∀ why, slotOf d st ≠ .refuse why) :
    Extends d joins st (addJoins joins (slotOf d st) st) := by
  unfold takesJoins at h
  split at h
  · rename_i recursive ctes s clauses
    obtain ⟨first, last, hlast⟩ := exists_concat (show s.tables ≠ [] by simpa using h)
    have hadd : addJoins joins (slotOf d (.query ⟨recursive, ctes, .select s, clauses⟩)) (.query ⟨recursive, ctes, .select s, clauses⟩) =
        .query ⟨recursive, ctes, .select { s with tables := first ++ [appendJoins joins last] }, clauses⟩ := by
      rw [addJoins, hlast, changeLast_concat]
    rw [hadd]
    exact .select hlast
  · rename_i u
    by_cases hu : u.sources = []
    · have hd : d = .mysql := by
        by_contra hd
        have hslot : slotOf d (.update u) = .refuse ("the " ++ d.name ++ " dialect cannot join onto the target of an UPDATE") := by
          simp [slotOf, hu, Dialect.joinsUpdateTarget, hd]
        exact hs _ hslot
      have hadd : addJoins joins (slotOf d (.update u)) (.update u) = .update { u with table := appendJoins joins u.table } := by
        rw [addJoins, hu]
        rfl
      rw [hadd]
      exact .updateTarget hu hd
    · obtain ⟨first, last, hlast⟩ := exists_concat hu
      have hadd : addJoins joins (slotOf d (.update u)) (.update u) =
          .update { u with sources := first ++ [appendJoins joins last] } := by
        simp [addJoins, hlast, changeLast_concat]
      rw [hadd]
      exact .updateSources hlast
  · exact extends_deleteSlot (by simpa using h) hs
  · cases h

/-! ## Joins that are refused -/

variable {total : Nat} {adds : Additions} {e : Error}

theorem not_refused_of_isParseFailure (h : e.isParseFailure = true) : ¬Refused e := by
  rintro ⟨why, rfl⟩
  cases h

theorem refused_of_checkMarkers (h : checkMarkers total a adds = .error e) : Refused e := by
  unfold checkMarkers at h
  simp only at h
  split at h
  · cases h; exact ⟨_, rfl⟩
  · split at h <;> cases h
    exact ⟨_, rfl⟩

theorem refused_of_bind {bound keys : List String} (h : bind bound keys = .error e) : Refused e := by
  induction keys generalizing bound with
  | nil => cases h
  | cons k ks ih =>
    unfold bind at h
    split at h
    · cases h; exact ⟨_, rfl⟩
    · exact ih h

theorem refused_of_build (ha : attachPoint c st = .ok a) {why : String}
    (hj : withJoins a adds.joins st = .error (.unmergeable why)) (h : build c total st adds = .error e) : Refused e := by
  rcases bind_eq_error.1 h with h | ⟨a', ha', h⟩
  · cases ha.symm.trans h
  · cases ha.symm.trans ha'
    rcases bind_eq_error.1 h with hc | ⟨_, -, h⟩
    · exact refused_of_checkMarkers hc
    · cases hb : bind a.bound (Join.bindingsList adds.joins) with
      | error e' =>
        rw [hb] at h
        cases h
        exact refused_of_bind hb
      | ok _ =>
        rw [hb, hj] at h
        cases h
        exact ⟨_, rfl⟩

/-- Nothing is built of a statement that has no place for the joins. -/
theorem build_refused (total : Nat) (hno : ∀ joined, ¬Extends c.dialect adds.joins st joined) (hjoins : adds.joins ≠ []) :
    ∃ e, build c total st adds = .error e ∧ (Refused e ↔ Tokenizes c (pieces st)) := by
  rcases attachPoint_ends c st with ⟨htok, ⟨htakes, a, ha, hslot⟩ | ⟨-, e, he, hrefused⟩⟩ | ⟨htok, e, he, hparse⟩
  · obtain ⟨why, hwhy⟩ : ∃ why, slotOf c.dialect st = .refuse why := by
      by_contra hs
      exact hno _ (extends_addJoins htakes fun why hwhy => hs ⟨why, hwhy⟩)
    have hj : withJoins a adds.joins st = .error (.unmergeable why) := by
      rw [withJoins, hslot, hwhy, if_neg (by simpa using hjoins)]
    -- checks of placeholders and names come before the slot is asked; whichever fails, the merge cannot be made
    cases hb : build c total st adds with
    | error e => exact ⟨e, rfl, fun _ => htok, fun _ => refused_of_build ha hj hb⟩
    | ok merged =>
      obtain ⟨a', joined, ha', -, hj', -⟩ := build_eq_ok hb
      cases ha.symm.trans ha'
      cases hj.symm.trans hj'
  · exact ⟨e, bind_eq_error.2 (.inl he), fun _ => htok, fun _ => hrefused⟩
  · exact ⟨e, bind_eq_error.2 (.inl he), fun hr => absurd hr (not_refused_of_isParseFailure hparse), fun h => absurd h htok⟩

/-- Joins that no place takes are refused: as a merge that cannot be made, unless the fragments are read and a printed
piece of the statement is no text of the dialect. -/
theorem merge_refused {template : String} {join predicate : Option String} {parsed : Template.Parsed}
    (hp : parse c template = .ok parsed) (hjoin : join ≠ none)
    (hno : ∀ joins joined, ¬Extends c.dialect joins parsed.statement joined) :
    ∃ e, merge c template join predicate = .error e ∧
      (Refused e ↔ ((∃ adds, readAdditions c join predicate = .ok adds) → Tokenizes c (pieces parsed.statement))) := by
  have hexplain : explain "original statement does not parse" (parse c template) = .ok parsed := by rw [hp]; rfl
  obtain ⟨hnormalized, hsingle⟩ := Template.parse_eq_ok hp
  obtain ⟨tokens, ht⟩ : ∃ tokens, tokenize c parsed.normalized.text = .ok tokens :=
    hnormalized ▸ Template.tokenize_of_parseSingle hsingle
  cases hadds : readAdditions c join predicate with
  | error e =>
    have hm : merge c template join predicate = .error e := by
      rw [merge, hexplain, hadds]
      show (tokenize c parsed.normalized.text >>= fun _ => Except.error e) = _
      rw [ht]
      rfl
    refine ⟨e, hm, fun _ h => ?_, fun _ => refused_of_readAdditions hadds⟩
    obtain ⟨_, ⟨⟩⟩ := h
  | ok adds =>
    have hjoins : adds.joins ≠ [] := fun hnil => hjoin ((joins_of_readAdditions hadds).1.1 hnil)
    obtain ⟨e, hb, hiff⟩ := build_refused (Parameter.count tokens) (fun joined => hno adds.joins joined) hjoins
    have hm : merge c template join predicate = .error e := by
      rw [merge, hexplain, hadds]
      show (tokenize c parsed.normalized.text >>= fun _ => _) = _
      rw [ht]
      show (build c (Parameter.count tokens) parsed.statement adds >>= fun _ => _) = _
      rw [hb]
      rfl
    exact ⟨e, hm, hiff.trans ⟨fun htok _ => htok, fun h => h ⟨adds, rfl⟩⟩⟩

/-! ## What is changed -/

/-- The second statement is the first one with the predicate, if there is one, conjoined to its own WHERE clause. -/
inductive Restricts : Option Expr → Statement → Statement → Prop
  | nothing (st : Statement) : Restricts none st st
  | select (p : Expr) (recursive : Bool) (ctes : List Cte) (s : Select) (clauses : List Clause) :
    Restricts (some p) (.query ⟨recursive, ctes, .select s, clauses⟩)
      (.query ⟨recursive, ctes, .select { s with selection := some (conjoin s.selection p) }, clauses⟩)
  | update (p : Expr) (u : Update) :
    Restricts (some p) (.update u) (.update { u with selection := some (conjoin u.selection p) })
  | delete (p : Expr) (d : Delete) :
    Restricts (some p) (.delete d) (.delete { d with selection := some (conjoin d.selection p) })

theorem restricts_withPredicate (h : takesJoins st = true) (p : Option Expr) : Restricts p st (withPredicate p st) := by
  cases p with
  | none => exact .nothing st
  | some p =>
    unfold takesJoins at h
    split at h
    · exact .select p _ _ _ _
    · exact .update p _
    · exact .delete p _
    · cases h

theorem extends_of_withJoins (ha : attachPoint c st = .ok a) (hne : joins ≠ []) (h : withJoins a joins st = .ok st') :
    Extends c.dialect joins st st' := by
  obtain ⟨htakes, hslot⟩ := slot_of_attachPoint ha
  rcases withJoins_eq_ok h with ⟨hnil, -⟩ | rfl
  · exact absurd hnil hne
  · rw [hslot]
    refine extends_addJoins htakes fun why hwhy => ?_
    rw [withJoins, hslot, hwhy, if_neg (by simpa using hne)] at h
    cases h

/-- A merge prints the statement of the template with the joins of the fragment, if one is given, after those of the list
that the dialect puts them after, with the predicate conjoined to WHERE, if one is given, and with nothing else changed.
If no list can take joins, they are refused: as a merge that cannot be made, unless the fragments are read and a printed
piece of the statement is no text of the dialect. -/
theorem merge_frame (c : Config) (template : String) (join predicate : Option String) :
    (∀ text, merge c template join predicate = .ok text → ∃ parsed adds joined merged,
      parse c template = .ok parsed ∧ readAdditions c join predicate = .ok adds ∧
        (∀ fragment ∈ join, ReadsJoins c fragment adds.joins) ∧ (adds.predicate = none ↔ predicate = none) ∧
        (join = none → joined = parsed.statement) ∧ (join ≠ none → Extends c.dialect adds.joins parsed.statement joined) ∧
        Restricts adds.predicate joined merged ∧ text = merged.print) ∧
    (∀ parsed, parse c template = .ok parsed → join ≠ none →
      (∀ joins joined, ¬Extends c.dialect joins parsed.statement joined) →
        ∃ e, merge c template join predicate = .error e ∧
          (Refused e ↔ ((∃ adds, readAdditions c join predicate = .ok adds) → Tokenizes c (pieces parsed.statement)))) := by
  refine ⟨fun text hm => ?_, fun parsed hp hjoin hno => merge_refused hp hjoin hno⟩
  obtain ⟨s⟩ := exists_stages hm
  obtain ⟨hjoins, hreads, hpredicate⟩ := joins_of_readAdditions s.adds_eq
  have htakes : takesJoins s.joined = true := by
    rcases withJoins_eq_ok s.joined_eq with ⟨-, h⟩ | h
    · rw [h]; exact takesJoins_of_attachPoint s.point_eq
    · rw [h]; exact takesJoins_addJoins _ _ (takesJoins_of_attachPoint s.point_eq)
  refine ⟨s.parsed, s.adds, s.joined, withPredicate s.adds.predicate s.joined, s.parse_eq, s.adds_eq, hreads, hpredicate,
    fun hnone => ?_, fun hsome => extends_of_withJoins s.point_eq (mt hjoins.1 hsome) s.joined_eq,
    restricts_withPredicate htakes _, s.text_eq⟩
  have hj := s.joined_eq
  rw [withJoins, hjoins.2 hnone] at hj
  exact (Except.ok.inj hj).symm

/-- A DELETE names its table when joins are added; a SELECT without tables takes none. -/
theorem merge_frame_delete :
    (∃ (parsed : Template.Parsed) (adds : Additions) (joined merged : Statement),
      parse ⟨.mysql, true⟩ "DELETE FROM users AS u" = .ok parsed ∧
      Extends .mysql adds.joins parsed.statement joined ∧ Restricts adds.predicate joined merged ∧
      merged.print = "DELETE u FROM users AS u JOIN notes WHERE mine") ∧
    ∃ e, merge ⟨.mysql, true⟩ "SELECT 1" (some "JOIN notes") none = .error e ∧ Refused e := by
  constructor
  · have hm : merge ⟨.mysql, true⟩ "DELETE FROM users AS u" (some "JOIN notes") (some "mine") =
        .ok "DELETE u FROM users AS u JOIN notes WHERE mine" := by decide +kernel
    obtain ⟨parsed, adds, joined, merged, hp, -, -, -, -, hextends, hrestricts, htext⟩ := (merge_frame _ _ _ _).1 _ hm
    exact ⟨parsed, adds, joined, merged, hp, hextends (by simp), hrestricts, htext.symm⟩
  · obtain ⟨parsed, hp⟩ := exists_eq_ok (x := parse ⟨.mysql, true⟩ "SELECT 1") (by decide +kernel)
    have hparsed : (parse ⟨.mysql, true⟩ "SELECT 1").toOption.map (fun p => (takesJoins p.statement, pieces p.statement)) =
        some (false, ["1"]) := by decide +kernel
    rw [hp] at hparsed
    obtain ⟨htakes, hpieces⟩ := Prod.mk.inj (Option.some.inj hparsed)
    obtain ⟨e, he, hiff⟩ := (merge_frame ⟨.mysql, true⟩ "SELECT 1" (some "JOIN notes") none).2 parsed hp (by simp)
      fun joins joined h => by rw [h.takesJoins] at htakes; cases htakes
    refine ⟨e, he, hiff.2 fun _ => ?_⟩
    rw [hpieces]
    intro text htext
    cases List.mem_singleton.1 htext
    exact exists_eq_ok (by decide +kernel)

/-- The template selects a backslash, which is printed as it is, where it escapes the quote after it. There is nothing to
join to, but the merge fails to parse. -/
theorem not_merge_frame_backslash :
    ∃ parsed e, parse ⟨.mysql, true⟩ "SELECT '\\\\'" = .ok parsed ∧
      (∀ joins joined, ¬Extends .mysql joins parsed.statement joined) ∧
      merge ⟨.mysql, true⟩ "SELECT '\\\\'" (some "JOIN u ON u.x = 1") none = .error e ∧ ¬Refused e := by
  obtain ⟨parsed, hp⟩ := exists_eq_ok (x := parse ⟨.mysql, true⟩ "SELECT '\\\\'") (by decide +kernel)
  have htakes : (parse ⟨.mysql, true⟩ "SELECT '\\\\'").toOption.map (fun p => takesJoins p.statement) = some false := by
    decide +kernel
  rw [hp] at htakes
  have hm : merge ⟨.mysql, true⟩ "SELECT '\\\\'" (some "JOIN u ON u.x = 1") none =
      .error (.parse "Unterminated string literal at Line: 1, Column: 1" (some ⟨1, 1⟩)) := by decide +kernel
  refine ⟨parsed, _, hp, fun joins joined h => ?_, hm, not_refused_of_isParseFailure rfl⟩
  have htakes : takesJoins parsed.statement = false := Option.some.inj htakes
  rw [h.takesJoins] at htakes
  cases htakes

end SqlTemplate.Merge
