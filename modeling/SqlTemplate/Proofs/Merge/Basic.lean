/-
What a successful merge went through: the template was read, the fragments were read, a place for them was
found, and the text of the statement built is a statement again.
-/
import SqlTemplate.Proofs.Merge.Attach

namespace SqlTemplate.Merge

open Template (Parsed parse parseSingle tokenize)

theorem explain_eq_ok {α : Type} {what : String} {r : Except Error α} {a : α} (h : explain what r = .ok a) : r = .ok a := by
  cases r with
  | ok b => exact h
  | error e => cases h

/-- The statement that a merge builds: a place was found, the joins were taken there and the predicate was added. -/
theorem build_eq_ok {c : Config} {total : Nat} {st merged : Statement} {adds : Additions}
    (h : build c total st adds = .ok merged) :
    ∃ a joined, attachPoint c st = .ok a ∧ checkMarkers total a adds = .ok () ∧
      withJoins a adds.joins st = .ok joined ∧ merged = withPredicate adds.predicate joined := by
  obtain ⟨a, ha, h⟩ := bind_eq_ok.1 h
  obtain ⟨⟨⟩, hc, h⟩ := bind_eq_ok.1 h
  obtain ⟨-, -, h⟩ := bind_eq_ok.1 h
  obtain ⟨joined, hj, h⟩ := bind_eq_ok.1 h
  cases h
  exact ⟨a, joined, ha, hc, hj, rfl⟩

theorem withJoins_eq_ok {a : AttachPoint} {joins : List Join} {st joined : Statement}
    (h : withJoins a joins st = .ok joined) : joins = [] ∧ joined = st ∨ joined = addJoins joins a.slot st := by
  unfold withJoins at h
  split at h
  · rename_i he
    cases h
    exact .inl ⟨List.isEmpty_iff.1 he, rfl⟩
  · split at h
    · cases h
    · cases h
      exact .inr rfl

/-- The WHERE clause of a statement that takes additions. -/
def selection : Statement → Option Expr
  | .query ⟨_, _, .select s, _⟩ => s.selection
  | .update u => u.selection
  | .delete d => d.selection
  | _ => none

section

variable {st : Statement}

theorem changeLast_ne_nil {α : Type} {f : α → α} {xs : List α} (h : xs ≠ []) : changeLast f xs ≠ [] := by
  cases xs with
  | nil => exact absurd rfl h
  | cons x xs => cases xs <;> simp [changeLast]

theorem takesJoins_addJoins (joins : List Join) (slot : Slot) (h : takesJoins st = true) :
    takesJoins (addJoins joins slot st) = true := by
  unfold takesJoins at h
  split at h
  · rename_i s _
    have hs : s.tables ≠ [] := by simpa using h
    simp [addJoins, takesJoins, changeLast_ne_nil hs]
  · unfold addJoins
    simp only
    split <;> rfl
  · rename_i d
    have hd : d.tables ≠ [] := by simpa using h
    unfold addJoins
    simp only
    split <;> split <;> simp [takesJoins, hd, changeLast_ne_nil hd]
  · cases h

theorem takesJoins_addPredicate (p : Expr) (st : Statement) : takesJoins (addPredicate p st) = takesJoins st := by
  unfold addPredicate
  split <;> rfl

theorem selection_addJoins (joins : List Join) (slot : Slot) (st : Statement) :
    selection (addJoins joins slot st) = selection st := by
  unfold addJoins
  split
  · rfl
  · split <;> rfl
  · simp only
    split <;> split <;> rfl
  · rfl

theorem selection_addPredicate (p : Expr) (h : takesJoins st = true) :
    selection (addPredicate p st) = some (conjoin (selection st) p) := by
  unfold takesJoins at h
  split at h
  · rfl
  · rfl
  · rfl
  · cases h

end

/-- The stages of a merge that gave `text`. -/
structure Stages (c : Config) (template : String) (join predicate : Option String) (text : String) where
  parsed : Parsed
  tokens : List Lexeme
  adds : Additions
  point : AttachPoint
  joined : Statement
  parse_eq : parse c template = .ok parsed
  tokenize_eq : tokenize c parsed.normalized.text = .ok tokens
  adds_eq : readAdditions c join predicate = .ok adds
  point_eq : attachPoint c parsed.statement = .ok point
  check_eq : checkMarkers (Parameter.count tokens) point adds = .ok ()
  joined_eq : withJoins point adds.joins parsed.statement = .ok joined
  text_eq : text = (withPredicate adds.predicate joined).print
  again : ∃ st, parseSingle c text = .ok st

/-- A successful merge has its stages. -/
theorem exists_stages {c : Config} {template : String} {join predicate : Option String} {text : String}
    (h : merge c template join predicate = .ok text) : Nonempty (Stages c template join predicate text) := by
  obtain ⟨parsed, hp, h⟩ := bind_eq_ok.1 h
  obtain ⟨tokens, ht, h⟩ := bind_eq_ok.1 h
  obtain ⟨adds, hadds, h⟩ := bind_eq_ok.1 h
  obtain ⟨merged, hm, h⟩ := bind_eq_ok.1 h
  obtain ⟨st, hs, h⟩ := bind_eq_ok.1 h
  cases h
  obtain ⟨a, joined, ha, hc, hj, rfl⟩ := build_eq_ok hm
  have hagain : ∃ st, parseSingle c (withPredicate adds.predicate joined).print = .ok st := by
    cases hr : parseSingle c (withPredicate adds.predicate joined).print with
    | ok st => exact ⟨st, rfl⟩
    | error e => rw [hr] at hs; cases hs
  exact ⟨⟨parsed, tokens, adds, a, joined, explain_eq_ok hp, ht, hadds, ha, hc, hj, rfl, hagain⟩⟩

theorem joinFragment_eq_ok {c : Config} {fragment : String} {js : Counted (List Join)} (h : joinFragment c fragment = .ok js) :
    countMarkers c (fragmentText c fragment) = .ok js.markers := by
  obtain ⟨st, -, h⟩ := bind_eq_ok.1 h
  simp only at h
  split at h
  · cases h
  · obtain ⟨-, -, h⟩ := bind_eq_ok.1 h
    obtain ⟨n, hn, h⟩ := bind_eq_ok.1 h
    cases h
    exact hn

theorem predicateFragment_eq_ok {c : Config} {fragment : String} {p : Counted Expr} (h : predicateFragment c fragment = .ok p) :
    countMarkers c (fragmentText c fragment) = .ok p.markers := by
  obtain ⟨st, -, h⟩ := bind_eq_ok.1 h
  cases he : anchoredPredicate? st with
  | none => rw [he] at h; cases h
  | some e =>
    simp only [he] at h
    cases hc : Condition.classify .where_ e with
    | error err => rw [hc] at h; split at h <;> cases h
    | ok nodes =>
      rw [hc] at h
      split at h
      · cases h
      · obtain ⟨n, hn, h⟩ := bind_eq_ok.1 h
        cases h
        exact hn

/-- The joins of the fragment, if there is one. -/
def readJoins (c : Config) : Option String → Except Error (Counted (List Join))
  | none => .ok ⟨[], 0⟩
  | some text => joinFragment c text

/-- The predicate of the fragment, if there is one. -/
def readPredicate (c : Config) : Option String → Except Error (Counted (Option Expr))
  | none => .ok ⟨none, 0⟩
  | some text => do
    let p ← predicateFragment c text
    return ⟨some p.content, p.markers⟩

theorem readAdditions_eq (c : Config) (join predicate : Option String) :
    readAdditions c join predicate = do
      let js ← readJoins c join
      let p ← readPredicate c predicate
      return ⟨js.content, js.markers, p.content, p.markers⟩ := by
  unfold readAdditions
  cases predicate with
  | none => cases join <;> rfl
  | some text =>
    have hread (js : Counted (List Join)) : (do
        let p ← predicateFragment c text
        return ⟨js.content, js.markers, some p.content, p.markers⟩ : Except Error Additions) = do
          let p ← readPredicate c (some text)
          return ⟨js.content, js.markers, p.content, p.markers⟩ := by
      rw [readPredicate]
      cases predicateFragment c text <;> rfl
    cases join with
    | none => exact hread ⟨[], 0⟩
    | some joinText => exact congrArg (joinFragment c joinText >>= ·) (funext hread)

theorem readAdditions_eq_ok_iff {c : Config} {join predicate : Option String} {adds : Additions} :
    readAdditions c join predicate = .ok adds ↔
      readJoins c join = .ok ⟨adds.joins, adds.joinMarkers⟩ ∧
        readPredicate c predicate = .ok ⟨adds.predicate, adds.predicateMarkers⟩ := by
  rw [readAdditions_eq]
  constructor
  · intro h
    obtain ⟨js, hj, h⟩ := bind_eq_ok.1 h
    obtain ⟨p, hp, h⟩ := bind_eq_ok.1 h
    cases h
    exact ⟨hj, hp⟩
  · rintro ⟨hj, hp⟩
    exact bind_eq_ok.2 ⟨_, hj, bind_eq_ok.2 ⟨_, hp, rfl⟩⟩

/-- The placeholders of the fragments are counted in their texts. -/
theorem readAdditions_eq_ok {c : Config} {join predicate : Option String} {adds : Additions}
    (h : readAdditions c join predicate = .ok adds) :
    (match join with
      | none => adds.joinMarkers = 0
      | some text => countMarkers c (fragmentText c text) = .ok adds.joinMarkers) ∧
    (match predicate with
      | none => adds.predicateMarkers = 0
      | some text => countMarkers c (fragmentText c text) = .ok adds.predicateMarkers) := by
  obtain ⟨hj, hp⟩ := readAdditions_eq_ok_iff.1 h
  constructor
  · cases join with
    | none => exact (congrArg Counted.markers (Except.ok.inj hj)).symm
    | some text => exact joinFragment_eq_ok hj
  · cases predicate with
    | none => exact (congrArg Counted.markers (Except.ok.inj hp)).symm
    | some text =>
      obtain ⟨p, hf, hp⟩ := bind_eq_ok.1 hp
      have hmarkers : p.markers = adds.predicateMarkers := congrArg Counted.markers (Except.ok.inj hp)
      exact hmarkers ▸ predicateFragment_eq_ok hf

end SqlTemplate.Merge
