/-
Reading fragments: the joins of a fragment that is accepted are all that its place holds, and a fragment that is not
accepted makes the merge fail as one that cannot be made. Placeholders are counted in the text of the fragment alone;
this text has tokens because its place has, and what stands before it is read apart from it.
-/
import SqlTemplate.Proofs.Merge.Basic
import SqlTemplate.Proofs.Token.Words

namespace SqlTemplate

/-! ## Texts after a place -/

namespace Lexer

theorem isSome_lex {d : Dialect} {text : String} : (lex d none text.toList).isSome = true ↔ ∃ tokens, tokenize d text = .ok tokens := by
  show ((tokenize d text).toOption.map (·.map Lexeme.token)).isSome = true ↔ _
  cases tokenize d text <;> simp [Except.toOption]

/-- What follows a piece and a blank is read as if it stood alone. -/
theorem Reads.isSome_lex_of_append {d : Dialect} {x y : List Char} {ts : List Token} (hx : Reads d x ts)
    (h : (lex d none (x ++ ' ' :: y)).isSome = true) : (lex d none y).isSome = true := by
  have hb : delimiter? ' ' = some .blank := rfl
  rw [hx none rfl (' ' :: y) (by simp [Delimited, hb]), lex_delimiter hb, Option.isSome_map, Option.isSome_map] at h
  cases y with
  | nil => rfl
  | cons c cs =>
    -- a blank before the first character does not change what is read
    cases hn : nextToken d none c cs with
    | error e =>
      have hblank : nextToken d (some .blank) c cs = .error e := by rw [nextToken_neutral rfl, hn]
      rw [lex, run_error hblank] at h
      cases h
    | ok r =>
      have hblank : nextToken d (some .blank) c cs = .ok r := by rw [nextToken_neutral rfl, hn]
      rw [lex_cons hblank] at h
      rwa [lex_cons hn]

theorem reads_anchor (d : Dialect) : Reads d Merge.anchor.toList [.plainWord Merge.anchor.toList] := by
  have hanchor : Merge.anchor.toList = '_' :: "_sqlsift_anchor__".toList := by decide
  have hnext : ∀ cs, nextToken d none '_' cs = word d ['_'] cs := by
    intro cs
    cases d <;> rfl
  have hchars : "_sqlsift_anchor__".toList.all isWordChar = true := by decide
  rw [hanchor]
  refine reads_token fun rest hr => ?_
  rw [hnext, word, takeCount, takeWhile_wordChars (List.all_eq_true.1 hchars) hr.wordEnd, Nat.add_comm]
  rfl

end Lexer

namespace Merge

open Template (parseSingle tokenize)

/-! ## Placeholders of fragments -/

variable {c : Config} {text : String} {st : Statement}

/-- The text of a fragment has tokens if its place has. -/
theorem exists_countMarkers {place : List Char} {ts : List Token} (hplace : Lexer.Reads c.dialect place ts)
    {anchored : String} (heq : anchored.toList = place ++ ' ' :: text.toList) (h : parseSingle c anchored = .ok st) :
    ∃ n, countMarkers c text = .ok n := by
  have hanchored := Lexer.isSome_lex.2 (Template.tokenize_of_parseSingle h)
  rw [heq] at hanchored
  obtain ⟨tokens, ht⟩ := Lexer.isSome_lex.1 (hplace.isSome_lex_of_append hanchored)
  exact ⟨Parameter.count tokens, bind_eq_ok.2 ⟨tokens, ht, rfl⟩⟩

theorem reads_place (d : Dialect) : ∃ ts, Lexer.Reads d ("SELECT * FROM ".toList ++ anchor.toList) ts := by
  have hselect : Lexer.Reads d "SELECT".toList _ := Lexer.reads_word rfl
  have hstar : Lexer.Reads d "*".toList _ := Lexer.reads_operator d (by decide)
  have hfrom : Lexer.Reads d "FROM".toList _ := Lexer.reads_word rfl
  exact ⟨_, ((hselect.append (b := ' ') rfl hstar).append (b := ' ') rfl hfrom).append (b := ' ') rfl (Lexer.reads_anchor d)⟩

theorem exists_countMarkers_join (h : parseSingle c ("SELECT * FROM " ++ anchor ++ " " ++ text) = .ok st) :
    ∃ n, countMarkers c text = .ok n := by
  obtain ⟨_, hplace⟩ := reads_place c.dialect
  exact exists_countMarkers hplace (by simp) h

theorem exists_countMarkers_predicate (h : parseSingle c ("SELECT * FROM " ++ anchor ++ " WHERE " ++ text) = .ok st) :
    ∃ n, countMarkers c text = .ok n := by
  obtain ⟨_, hplace⟩ := reads_place c.dialect
  have hwhere : Lexer.Reads c.dialect "WHERE".toList _ := Lexer.reads_word rfl
  exact exists_countMarkers (hplace.append (b := ' ') rfl hwhere) (by simp) h

/-! ## Fragments that are refused -/

variable {fragment : String} {e : Error}

theorem parseFragment_eq_ok {kind anchored : String} (h : parseFragment c kind anchored = .ok st) :
    parseSingle c anchored = .ok st := by
  unfold parseFragment at h
  split at h
  · cases h; assumption
  · cases h

theorem refused_of_parseFragment {kind anchored : String} (h : parseFragment c kind anchored = .error e) : Refused e := by
  unfold parseFragment at h
  split at h <;> cases h
  exact ⟨_, rfl⟩

theorem refused_of_checkJoins {js : List Join} (h : checkJoins js = .error e) : Refused e := by
  induction js with
  | nil => cases h
  | cons j js ih =>
    unfold checkJoins at h
    split at h
    · exact ih h
    · split at h
      · exact ih h
      · cases h; exact ⟨_, rfl⟩

theorem refused_of_joinFragment (h : joinFragment c fragment = .error e) : Refused e := by
  rcases bind_eq_error.1 h with hparse | ⟨st, hst, h⟩
  · exact refused_of_parseFragment hparse
  · simp only at h
    split at h
    · cases h; exact ⟨_, rfl⟩
    · rcases bind_eq_error.1 h with hjoins | ⟨-, -, h⟩
      · exact refused_of_checkJoins hjoins
      · obtain ⟨n, hn⟩ := exists_countMarkers_join (parseFragment_eq_ok hst)
        rw [hn] at h
        cases h

theorem refused_of_predicateFragment (h : predicateFragment c fragment = .error e) : Refused e := by
  rcases bind_eq_error.1 h with hparse | ⟨st, hst, h⟩
  · exact refused_of_parseFragment hparse
  · cases hp : anchoredPredicate? st with
    | none => rw [hp] at h; cases h; exact ⟨_, rfl⟩
    | some p =>
      obtain ⟨n, hn⟩ := exists_countMarkers_predicate (parseFragment_eq_ok hst)
      simp only [hp, hn] at h
      split at h
      · cases h; exact ⟨_, rfl⟩
      · split at h <;> cases h
        exact ⟨_, rfl⟩

theorem refused_of_readAdditions {join predicate : Option String} (h : readAdditions c join predicate = .error e) :
    Refused e := by
  rw [readAdditions_eq] at h
  rcases bind_eq_error.1 h with hj | ⟨js, -, h⟩
  · cases join with
    | none => cases hj
    | some text => exact refused_of_joinFragment hj
  · rcases bind_eq_error.1 h with hp | ⟨p, -, h⟩
    · cases predicate with
      | none => cases hp
      | some text =>
        rcases bind_eq_error.1 hp with hf | ⟨_, -, hp⟩
        · exact refused_of_predicateFragment hf
        · cases hp
    · cases h

/-! ## Fragments that are accepted -/

/-- The joins that a fragment consists of: in its place it is read as them, and printed as nothing else. -/
def ReadsJoins (c : Config) (fragment : String) (joins : List Join) : Prop :=
  ∃ st, parseSingle c ("SELECT * FROM " ++ anchor ++ " " ++ fragmentText c fragment) = .ok st ∧
    anchoredJoins st = joins ∧ st.print = "SELECT * FROM " ++ anchor ++ spacedAll (Join.printList joins)

theorem readsJoins_of_joinFragment {js : Counted (List Join)} (h : joinFragment c fragment = .ok js) :
    js.content ≠ [] ∧ ReadsJoins c fragment js.content := by
  obtain ⟨st, hst, h⟩ := bind_eq_ok.1 h
  simp only at h
  split at h
  · cases h
  · rename_i hone
    obtain ⟨-, -, h⟩ := bind_eq_ok.1 h
    obtain ⟨n, -, h⟩ := bind_eq_ok.1 h
    cases h
    simp only [Bool.or_eq_true, not_or, List.isEmpty_iff, bne_iff_ne, ne_eq, not_not] at hone
    exact ⟨hone.1, st, parseFragment_eq_ok hst, rfl, hone.2⟩

/-- Joins are added if and only if a fragment of joins is given, and they are those of the fragment. -/
theorem joins_of_readAdditions {join predicate : Option String} {adds : Additions}
    (h : readAdditions c join predicate = .ok adds) :
    (adds.joins = [] ↔ join = none) ∧ (∀ text ∈ join, ReadsJoins c text adds.joins) ∧
      (adds.predicate = none ↔ predicate = none) := by
  obtain ⟨hj, hp⟩ := readAdditions_eq_ok_iff.1 h
  have hpredicate : adds.predicate = none ↔ predicate = none := by
    cases predicate with
    | none =>
      have hnone : none = adds.predicate := congrArg Counted.content (Except.ok.inj hp)
      simp [← hnone]
    | some text =>
      obtain ⟨p, -, hp⟩ := bind_eq_ok.1 hp
      have hsome : some p.content = adds.predicate := congrArg Counted.content (Except.ok.inj hp)
      simp [← hsome]
  cases join with
  | none =>
    have hnil : [] = adds.joins := congrArg Counted.content (Except.ok.inj hj)
    exact ⟨by simp [← hnil], by simp, hpredicate⟩
  | some text =>
    obtain ⟨hne, hreads⟩ := readsJoins_of_joinFragment hj
    exact ⟨by simpa using hne, by simpa using hreads, hpredicate⟩

end Merge

end SqlTemplate
