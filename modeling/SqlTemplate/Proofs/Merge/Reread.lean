/-
Reading a merge back. A merge prints the statement that it built and only checks that the text is a statement. It
is the statement built if that one is plain; a string literal with a backslash in it may end elsewhere in the text
than it did in the template, and swallow what follows.
-/
import SqlTemplate.Proofs.Grammar.RoundTrip
import SqlTemplate.Proofs.Merge.Basic

namespace SqlTemplate.Merge

open Template (parse parseSingle tokenize)

/-- The statement that a merge builds and prints. -/
def built (c : Config) (template : String) (join predicate : Option String) : Except Error Statement := do
  let parsed ← parse c template
  let tokens ← tokenize c parsed.normalized.text
  build c (Parameter.count tokens) parsed.statement (← readAdditions c join predicate)

/-- The condition of a statement after a merge. -/
def conjoined? (existing added : Option Expr) : Option Expr :=
  match added with
  | none => existing
  | some p => some (conjoin existing p)

section

variable {c : Config} {template text : String} {join predicate : Option String} {merged : Statement}

theorem merge_eq_ok (h : merge c template join predicate = .ok text) :
    ∃ merged, built c template join predicate = .ok merged ∧ text = merged.print := by
  obtain ⟨parsed, hp, h⟩ := bind_eq_ok.1 h
  obtain ⟨tokens, ht, h⟩ := bind_eq_ok.1 h
  obtain ⟨adds, ha, h⟩ := bind_eq_ok.1 h
  obtain ⟨merged, hm, h⟩ := bind_eq_ok.1 h
  obtain ⟨-, -, h⟩ := bind_eq_ok.1 h
  cases h
  refine ⟨merged, ?_, rfl⟩
  rw [built, explain_eq_ok hp]
  show (tokenize c parsed.normalized.text >>= _) = _
  rw [ht, ha]
  exact hm

theorem built_eq_ok (h : built c template join predicate = .ok merged) :
    ∃ parsed adds total, parse c template = .ok parsed ∧ readAdditions c join predicate = .ok adds ∧
      build c total parsed.statement adds = .ok merged := by
  obtain ⟨parsed, hp, h⟩ := bind_eq_ok.1 h
  obtain ⟨tokens, -, h⟩ := bind_eq_ok.1 h
  obtain ⟨adds, ha, h⟩ := bind_eq_ok.1 h
  exact ⟨parsed, adds, Parameter.count tokens, hp, ha, h⟩

theorem selection_build {total : Nat} {st : Statement} {adds : Additions} (h : build c total st adds = .ok merged) :
    selection merged = conjoined? (selection st) adds.predicate := by
  obtain ⟨a, joined, ha, -, hw, rfl⟩ := build_eq_ok h
  have ht := takesJoins_of_attachPoint ha
  have hjoined : takesJoins joined = true ∧ selection joined = selection st := by
    rcases withJoins_eq_ok hw with ⟨-, rfl⟩ | rfl
    · exact ⟨ht, rfl⟩
    · exact ⟨takesJoins_addJoins _ _ ht, selection_addJoins _ _ st⟩
  cases hp : adds.predicate with
  | none => exact hjoined.2
  | some p => rw [withPredicate, selection_addPredicate p hjoined.1, hjoined.2]; rfl

end

/-- The text of a merge whose statement is plain is read as that statement, whose condition is that of the template and
the predicate. -/
theorem parseSingle_merge (c : Config) (template : String) (join predicate : Option String) (text : String)
    (merged : Statement) (hm : merge c template join predicate = .ok text)
    (hb : built c template join predicate = .ok merged) (hp : merged.isPlain c.dialect = true) :
    parseSingle c text = .ok merged ∧ ∃ parsed adds, parse c template = .ok parsed ∧
      readAdditions c join predicate = .ok adds ∧
      selection merged = conjoined? (selection parsed.statement) adds.predicate := by
  obtain ⟨merged', hb', rfl⟩ := merge_eq_ok hm
  cases hb.symm.trans hb'
  obtain ⟨parsed, adds, total, hparsed, hadds, hbuild⟩ := built_eq_ok hb
  exact ⟨Template.parseSingle_print hp, parsed, adds, hparsed, hadds, selection_build hbuild⟩

theorem parseSingle_merge_owner :
    ∃ text merged, merge ⟨.mysql, true⟩ "SELECT a FROM t WHERE b = 'it''s' OR c = 1" none (some "u = ?") = .ok text ∧
      built ⟨.mysql, true⟩ "SELECT a FROM t WHERE b = 'it''s' OR c = 1" none (some "u = ?") = .ok merged ∧
      parseSingle ⟨.mysql, true⟩ text = .ok merged := by
  have hread : (merge ⟨.mysql, true⟩ "SELECT a FROM t WHERE b = 'it''s' OR c = 1" none (some "u = ?")).toOption.isSome = true ∧
      (built ⟨.mysql, true⟩ "SELECT a FROM t WHERE b = 'it''s' OR c = 1" none (some "u = ?")).toOption.any
        (Statement.isPlain .mysql) = true := by decide +kernel
  obtain ⟨hm, hplain⟩ := hread
  obtain ⟨text, hm⟩ := exists_eq_ok hm
  obtain ⟨merged, hb, -⟩ := merge_eq_ok hm
  rw [hb] at hplain
  exact ⟨text, merged, hm, hb, (parseSingle_merge _ _ _ _ text merged hm hb hplain).1⟩

/-- The template compares a column with a backslash. The merge prints the backslash as it is, where it escapes the quote
after it: the second literal of the template becomes part of the condition, and the predicate part of a comment. -/
theorem not_parseSingle_merge_backslash :
    ∃ text merged, merge ⟨.mysql, true⟩ "SELECT a FROM t WHERE a = '\\\\' AND b = ' OR 1 = 1) -- '" none (some "c = 2") = .ok text ∧
      built ⟨.mysql, true⟩ "SELECT a FROM t WHERE a = '\\\\' AND b = ' OR 1 = 1) -- '" none (some "c = 2") = .ok merged ∧
      parseSingle ⟨.mysql, true⟩ text ≠ .ok merged := by
  have hm : (merge ⟨.mysql, true⟩ "SELECT a FROM t WHERE a = '\\\\' AND b = ' OR 1 = 1) -- '" none (some "c = 2")).toOption =
      some "SELECT a FROM t WHERE (a = '\\' AND b = ' OR 1 = 1) -- ') AND (c = 2)" := by decide +kernel
  have hprint : (parseSingle ⟨.mysql, true⟩ "SELECT a FROM t WHERE (a = '\\' AND b = ' OR 1 = 1) -- ') AND (c = 2)").toOption.map
      Statement.print = some "SELECT a FROM t WHERE (a = ''' AND b = ' OR 1 = 1)" := by decide +kernel
  obtain ⟨merged, hb, htext⟩ := merge_eq_ok (eq_ok_of_toOption hm)
  refine ⟨_, merged, eq_ok_of_toOption hm, hb, fun hparse => ?_⟩
  -- the statement built would print as the text again
  rw [hparse] at hprint
  have hsame : merged.print = "SELECT a FROM t WHERE (a = ''' AND b = ' OR 1 = 1)" := Option.some.inj hprint
  rw [← htext] at hsame
  exact absurd hsame (by decide)

end SqlTemplate.Merge
