/-
The place where fragments are attached to a statement. It is found in every statement that has relations, and in no
other; but placeholders are counted in printed pieces of the statement on the way, which fails to parse if one of these
is no text of the dialect.
-/
import SqlTemplate.Merge.Basic
import SqlTemplate.Proofs.Template.Read

namespace SqlTemplate.Merge

open Template (tokenize)

variable {c : Config}

/-! ## Counting in printed pieces -/

/-- Each of the texts has tokens. -/
def Tokenizes (c : Config) (texts : List String) : Prop := ∀ text ∈ texts, ∃ tokens, tokenize c text = .ok tokens

theorem tokenizes_append {xs ys : List String} : Tokenizes c (xs ++ ys) ↔ Tokenizes c xs ∧ Tokenizes c ys :=
  List.forall_mem_append

theorem tokenize_eq_error {text : String} {e : Error} (h : tokenize c text = .error e) : e.isParseFailure = true := by
  suffices hrun : ∀ cs previous skip l, Lexer.run c.dialect previous skip l cs = .error e → e.isParseFailure = true from
    hrun _ _ _ _ h
  intro cs
  induction cs with
  | nil => intro _ _ _ h; cases h
  | cons x cs ih =>
    intro previous skip l h
    cases skip with
    | succ k => exact ih _ _ _ h
    | zero =>
      unfold Lexer.run at h
      split at h
      · rename_i heq
        cases heq
      · split at h
        · cases h; rfl
        · split at h
          · rename_i hrest
            cases h
            exact ih _ _ _ hrest
          · cases h

theorem countAll_cases (c : Config) (texts : List String) :
    Tokenizes c texts ∧ (∃ n, countAll c texts = .ok n) ∨
      ¬Tokenizes c texts ∧ ∃ e, countAll c texts = .error e ∧ e.isParseFailure = true := by
  induction texts with
  | nil => exact .inl ⟨by simp [Tokenizes], 0, rfl⟩
  | cons text texts ih =>
    cases htext : tokenize c text with
    | error e =>
      have hcount : countMarkers c text = .error e := bind_eq_error.2 (.inl htext)
      refine .inr ⟨fun hall => ?_, e, bind_eq_error.2 (.inl hcount), tokenize_eq_error htext⟩
      obtain ⟨tokens, ht⟩ := hall text List.mem_cons_self
      cases htext.symm.trans ht
    | ok tokens =>
      have hcount : countMarkers c text = .ok (Parameter.count tokens) := bind_eq_ok.2 ⟨tokens, htext, rfl⟩
      rcases ih with ⟨hall, n, hn⟩ | ⟨hnot, e, he, hparse⟩
      · refine .inl ⟨?_, _, bind_eq_ok.2 ⟨_, hcount, bind_eq_ok.2 ⟨n, hn, rfl⟩⟩⟩
        exact List.forall_mem_cons.2 ⟨⟨tokens, htext⟩, hall⟩
      · refine .inr ⟨fun hall => hnot (List.forall_mem_cons.1 hall).2, e, ?_, hparse⟩
        exact bind_eq_error.2 (.inr ⟨_, hcount, bind_eq_error.2 (.inl he)⟩)

/-- How a step ends that counts placeholders in the texts first: it fails to parse if one of these has no tokens, and
otherwise ends as it should. -/
def Ends (c : Config) (texts : List String) (P : Except Error AttachPoint → Prop) (x : Except Error AttachPoint) : Prop :=
  Tokenizes c texts ∧ P x ∨ ¬Tokenizes c texts ∧ ∃ e, x = .error e ∧ e.isParseFailure = true

variable {P : Except Error AttachPoint → Prop} {xs ys : List String}

theorem Ends.now {x : Except Error AttachPoint} (h : P x) : Ends c [] P x := .inl ⟨by simp [Tokenizes], h⟩

theorem Ends.count {f : Nat → Except Error AttachPoint} (h : ∀ n, Ends c ys P (f n)) : Ends c (xs ++ ys) P (countAll c xs >>= f) := by
  rcases countAll_cases c xs with ⟨hall, n, hn⟩ | ⟨hnot, e, he, hparse⟩
  · rw [hn]
    rcases h n with ⟨hys, hP⟩ | ⟨hys, hfail⟩
    · exact .inl ⟨tokenizes_append.2 ⟨hall, hys⟩, hP⟩
    · exact .inr ⟨fun h => hys (tokenizes_append.1 h).2, hfail⟩
  · exact .inr ⟨fun h => hnot (tokenizes_append.1 h).1, e, bind_eq_error.2 (.inl he), hparse⟩

theorem Ends.last {f : Nat → Except Error AttachPoint} (h : ∀ n, P (f n)) : Ends c xs P (countAll c xs >>= f) := by
  have hcount : Ends c (xs ++ []) P (countAll c xs >>= f) := .count fun n => .now (h n)
  rwa [List.append_nil] at hcount

/-! ## The place -/

/-- Whether a statement has relations that joins can follow. -/
def takesJoins : Statement → Bool
  | .query ⟨_, _, .select s, _⟩ => !s.tables.isEmpty
  | .update _ => true
  | .delete d => !d.tables.isEmpty
  | _ => false

/-- How the dialect takes joins into a statement that has relations. -/
def slotOf (d : Dialect) : Statement → Slot
  | .update u =>
    if u.sources.isEmpty && !d.joinsUpdateTarget then
      .refuse ("the " ++ d.name ++ " dialect cannot join onto the target of an UPDATE")
    else .append
  | .delete del => deleteSlot d del
  | _ => .append

/-- The error of a merge that cannot be made. -/
def Refused (e : Error) : Prop := ∃ why, e = .unmergeable why

/-- The printed pieces of a statement that placeholders are counted in. -/
def pieces : Statement → List String
  | .query ⟨recursive, ctes, .select s, _⟩ =>
    printWith recursive ctes ++ (SelectItem.printList s.projection ++ (TableTree.printList s.tables ++
      (Expr.printOption s.selection).toList))
  | .update u =>
    [u.table.print] ++ (Assignment.printList u.assignments ++ (TableTree.printList u.sources ++
      (Expr.printOption u.selection).toList))
  | .delete d =>
    if d.tables.isEmpty then []
    else d.targets.map ObjectName.print ++ (TableTree.printList d.tables ++ (TableTree.printList d.usingTables ++
      (Expr.printOption d.selection).toList))
  | _ => []

/-- The place for joins, or the lack of one. -/
def Placing (d : Dialect) (st : Statement) (x : Except Error AttachPoint) : Prop :=
  takesJoins st = true ∧ (∃ a, x = .ok a ∧ a.slot = slotOf d st) ∨ takesJoins st = false ∧ ∃ e, x = .error e ∧ Refused e

theorem placing_none {d : Dialect} (what : String) (h : takesJoins st = false) : Placing d st (.error (noTables what)) :=
  .inr ⟨h, _, rfl, _, rfl⟩

theorem selectPoint_ends (c : Config) (recursive : Bool) (ctes : List Cte) (s : Select) (clauses : List Clause) :
    Ends c (pieces (.query ⟨recursive, ctes, .select s, clauses⟩)) (Placing c.dialect (.query ⟨recursive, ctes, .select s, clauses⟩))
      (selectPoint c recursive ctes s) := by
  refine .count fun _ => .count fun _ => .count fun _ => .last fun _ => ?_
  cases hs : s.tables.isEmpty with
  | true => exact placing_none _ (by simp [takesJoins, hs])
  | false => exact .inl ⟨by simp [takesJoins, hs], _, rfl, rfl⟩

theorem updatePoint_ends (c : Config) (u : Update) : Ends c (pieces (.update u)) (Placing c.dialect (.update u)) (updatePoint c u) := by
  refine .count fun _ => .count fun _ => .count fun _ => .last fun _ => .inl ⟨rfl, ?_⟩
  cases hs : u.sources.isEmpty with
  | false => exact ⟨_, rfl, by simp [slotOf, hs]⟩
  | true => cases hd : c.dialect.joinsUpdateTarget <;> exact ⟨_, rfl, by simp [slotOf, hs, hd]⟩

theorem deletePoint_ends (c : Config) (del : Delete) :
    Ends c (pieces (.delete del)) (Placing c.dialect (.delete del)) (deletePoint c del) := by
  cases ht : del.tables.isEmpty with
  | true =>
    have hpoint : deletePoint c del = .error (noTables "a DELETE without tables") := by
      rw [deletePoint, ht]
      rfl
    rw [pieces, if_pos ht, hpoint]
    exact .now (placing_none _ (by simp [takesJoins, ht]))
  | false =>
    -- the test for tables comes first here, so nothing is counted without them
    rw [pieces, deletePoint, ht]
    exact .count fun _ => .count fun _ => .count fun _ => .last fun _ => .inl ⟨by simp [takesJoins, ht], _, rfl, rfl⟩

/-- A place is found if and only if the statement has relations, once its pieces are counted. -/
theorem attachPoint_ends (c : Config) (st : Statement) : Ends c (pieces st) (Placing c.dialect st) (attachPoint c st) := by
  unfold attachPoint
  split
  · exact selectPoint_ends c _ _ _ _
  · rename_i q hq
    obtain ⟨recursive, ctes, body, clauses⟩ := q
    cases body with
    | select s => exact absurd rfl (hq recursive ctes s clauses)
    | _ => exact .now (placing_none _ rfl)
  · exact updatePoint_ends c _
  · exact deletePoint_ends c _
  · exact .now (placing_none _ rfl)
  · exact .now (placing_none _ rfl)

variable {st : Statement} {a : AttachPoint}

/-- A place is found in statements that have relations, and takes joins as the dialect does. -/
theorem slot_of_attachPoint (h : attachPoint c st = .ok a) : takesJoins st = true ∧ a.slot = slotOf c.dialect st := by
  rcases attachPoint_ends c st with ⟨-, ⟨htakes, a', ha, hslot⟩ | ⟨-, e, he, -⟩⟩ | ⟨-, e, he, -⟩
  · cases h.symm.trans ha
    exact ⟨htakes, hslot⟩
  · cases h.symm.trans he
  · cases h.symm.trans he

theorem takesJoins_of_attachPoint (h : attachPoint c st = .ok a) : takesJoins st = true := (slot_of_attachPoint h).1

end SqlTemplate.Merge
