/-
Places in messages. A message that ends with a place has this place, whatever stands before it: a message may quote a
statement in which the same words stand, but the last `Line: ` is the one before the place, since there is no other
capital letter L after it, and the first `, Column: ` after that is the one between the two numbers.
-/
import SqlTemplate.Error
import SqlTemplate.Proofs.Text.Ends
import Mathlib.Algebra.Group.Nat.Defs
import Mathlib.Data.List.TakeWhile

namespace SqlTemplate.Error

/-! ## Marks in a text -/

section Marks

variable {mark cs before rest : List Char}

theorem afterLast?_eq_none_iff (hmark : mark ≠ []) : afterLast? mark cs = none ↔ ¬ mark <:+: cs := by
  induction cs with
  | nil => simp [afterLast?, hmark]
  | cons c cs ih =>
    rw [afterLast?, List.infix_cons_iff, not_or, ← ih]
    cases afterLast? mark cs with
    | none => simp [Text.dropStart?_eq_none_iff]
    | some rest => simp

/-- The text after the last mark: no mark begins after the first character of this one. -/
theorem afterLast?_eq_some_iff (hmark : mark ≠ []) :
    afterLast? mark cs = some rest ↔ mark ++ rest <:+ cs ∧ ¬ mark <:+: mark.tail ++ rest := by
  induction cs with
  | nil => simp [afterLast?, hmark]
  | cons c cs ih =>
    have htail (h : mark ++ rest = c :: cs) : mark.tail ++ rest = cs := by
      rw [← List.tail_append_of_ne_nil hmark, h, List.tail_cons]
    rw [afterLast?, List.suffix_cons_iff]
    cases hlater : afterLast? mark cs with
    | none =>
      have hnone := (afterLast?_eq_none_iff hmark).1 hlater
      rw [Text.dropStart?_eq_some_iff]
      constructor
      · intro h
        exact ⟨.inl h.symm, by rwa [htail h.symm]⟩
      · rintro ⟨h | h, -⟩
        · exact h.symm
        · exact absurd ((List.prefix_append mark rest).isInfix.trans h.isInfix) hnone
    | some later =>
      -- a mark stands in the tail, so that one at the start is not the last
      have hmore : mark <:+: cs := by
        by_contra hnone
        rw [(afterLast?_eq_none_iff hmark).2 hnone] at hlater
        cases hlater
      rw [hlater] at ih
      rw [ih]
      constructor
      · rintro ⟨h, hlast⟩
        exact ⟨.inr h, hlast⟩
      · rintro ⟨h | h, hlast⟩
        · rw [htail h] at hlast
          exact absurd hmore hlast
        · exact ⟨h, hlast⟩

/-- The texts before and after the first mark: no mark ends before the last character of this one. -/
theorem splitFirst?_eq_some_iff (hmark : mark ≠ []) :
    splitFirst? mark cs = some (before, rest) ↔
      cs = before ++ mark ++ rest ∧ ¬ mark <:+: before ++ mark.dropLast := by
  have hlength := List.length_pos_of_ne_nil hmark
  have hcut (before rest : List Char) : before ++ mark.dropLast <+: before ++ mark ++ rest :=
    ((List.prefix_append_right_inj before).2 mark.dropLast_prefix).trans (List.prefix_append _ rest)
  induction cs generalizing before with
  | nil => simp [splitFirst?, hmark]
  | cons c cs ih =>
    rw [splitFirst?]
    cases hstart : Text.dropStart? mark (c :: cs) with
    | some rest' =>
      rw [Text.dropStart?_eq_some_iff] at hstart
      constructor
      · intro h
        cases h
        refine ⟨hstart, fun hin => ?_⟩
        have := hin.length_le
        rw [List.nil_append, List.length_dropLast] at this
        omega
      · rintro ⟨heq, hfirst⟩
        -- the mark at the start would end before the last character of a later one
        have hnil : before = [] := by
          by_contra hne
          have hpos := List.length_pos_of_ne_nil hne
          have hwhole : mark <+: before ++ mark ++ rest := ⟨rest', by rw [← hstart, heq]⟩
          refine hfirst (List.prefix_of_prefix_length_le hwhole (hcut before rest) ?_).isInfix
          rw [List.length_append, List.length_dropLast]
          omega
        rw [hnil, List.nil_append, hstart] at heq
        rw [hnil, List.append_cancel_left heq]
    | none =>
      rw [Text.dropStart?_eq_none_iff] at hstart
      cases before with
      | nil =>
        constructor
        · intro h
          obtain ⟨p, -, hp⟩ := Option.map_eq_some_iff.1 h
          cases hp
        · rintro ⟨heq, -⟩
          exact absurd ⟨rest, heq.symm⟩ hstart
      | cons b before =>
        have hrest : (splitFirst? mark cs).map (fun p => (c :: p.1, p.2)) = some (b :: before, rest) ↔
            c = b ∧ splitFirst? mark cs = some (before, rest) := by
          simp [Option.map_eq_some_iff, and_left_comm]
        refine (hrest.trans (and_congr_right fun _ => ih)).trans ?_
        constructor
        · rintro ⟨rfl, rfl, hfirst⟩
          have hhere : ¬ mark <+: c :: (before ++ mark.dropLast) := fun h =>
            hstart (h.trans ((List.prefix_cons_inj c).2 (hcut before rest)))
          exact ⟨rfl, fun h => (List.infix_cons_iff.1 h).elim hhere hfirst⟩
        · rintro ⟨heq, hfirst⟩
          obtain ⟨rfl, rfl⟩ := List.cons.inj heq
          exact ⟨rfl, rfl, fun h => hfirst (List.infix_cons_iff.2 (.inr h))⟩

end Marks

/-! ## Numbers -/

section Numbers

variable (n : Nat)

theorem isDigit_of_mem_toString {n : Nat} {c : Char} (h : c ∈ (toString n).toList) : c.isDigit = true := by
  rw [Nat.toString_eq_repr, Nat.toList_repr] at h
  exact Nat.isDigit_of_mem_toDigits (by decide) (by decide) h

theorem not_mem_toString {c : Char} (h : c.isDigit = false) : c ∉ (toString n).toList := by
  intro hmem
  rw [isDigit_of_mem_toString hmem] at h
  cases h

theorem toString_toList_ne_nil : (toString n).toList ≠ [] := by
  rw [Nat.toString_eq_repr, Nat.toList_repr]
  exact Nat.toDigits_ne_nil

/-- The digits that a number is written with have its value. -/
theorem digitsValue_toString : digitsValue (toString n).toList = n := by
  have hvalue (cs : List Char) : digitsValue cs = Nat.ofDigitChars 10 cs 0 := by
    rw [digitsValue, Nat.ofDigitChars_eq_foldl]
    exact List.foldl_ext _ _ _ fun n c _ => by rw [Nat.mul_comm]; rfl
  rw [hvalue, Nat.toString_eq_repr, Nat.toList_repr, Nat.ofDigitChars_ten_toDigits]

theorem number?_toString : number? (toString n).toList = if n < 2 ^ 64 then some n else none := by
  -- no sign is written
  have hplus : Text.dropStart? ['+'] (toString n).toList = none := by
    rw [Text.dropStart?_eq_none_iff]
    exact fun h => not_mem_toString n (by decide) (h.subset List.mem_cons_self)
  have hdigits : (toString n).toList.all Char.isDigit = true := List.all_eq_true.2 fun _ => isDigit_of_mem_toString
  rw [number?, hplus, Option.getD_none, hdigits, List.isEmpty_eq_false_iff.2 (toString_toList_ne_nil n),
    digitsValue_toString]
  rfl

theorem trimChars_toString : Text.trimChars (toString n).toList = (toString n).toList := by
  have hblank {c : Char} (h : c ∈ (toString n).toList) : (!Text.isBlank c) = true := by
    rw [Text.isBlank_of_isDigit (isDigit_of_mem_toString h), Bool.not_false]
  refine Text.trimChars_eq_self ?_ ?_
  · exact (Option.all_eq_true _ _).2 fun c hc => hblank (List.mem_of_mem_head? hc)
  · exact (Option.all_eq_true _ _).2 fun c hc => hblank (List.mem_of_mem_getLast? hc)

theorem takeWhile_isDigit_toString : (toString n).toList.takeWhile Char.isDigit = (toString n).toList :=
  List.takeWhile_eq_self_iff.2 fun _ => isDigit_of_mem_toString

theorem count_toString {c : Char} (h : c.isDigit = false) : (toString n).toList.count c = 0 :=
  List.count_eq_zero.2 (not_mem_toString n h)

end Numbers

/-! ## Places -/

theorem not_infix_of_count_lt (c : Char) {mark cs : List Char} (h : cs.count c < mark.count c) : ¬ mark <:+: cs :=
  fun hin => Nat.not_le_of_lt h (hin.sublist.count_le c)

/-- The last `Line: ` is the one before the place: no other L follows it. -/
theorem afterLast?_line (before : List Char) (l : Location) :
    afterLast? "Line: ".toList
        (before ++ ("Line: ".toList ++ ((toString l.line).toList ++ ", Column: ".toList ++ (toString l.column).toList))) =
      some ((toString l.line).toList ++ ", Column: ".toList ++ (toString l.column).toList) := by
  rw [afterLast?_eq_some_iff (by decide)]
  refine ⟨List.suffix_append _ _, not_infix_of_count_lt 'L' ?_⟩
  rw [List.count_append, List.count_append, List.count_append, count_toString _ (by decide),
    count_toString _ (by decide)]
  decide

/-- The first `, Column: ` after that is the one between the numbers: it has two blanks, and the text that it stands in
has no more than one before them. -/
theorem splitFirst?_column (l : Location) :
    splitFirst? ", Column: ".toList ((toString l.line).toList ++ ", Column: ".toList ++ (toString l.column).toList) =
      some ((toString l.line).toList, (toString l.column).toList) := by
  rw [splitFirst?_eq_some_iff (by decide)]
  refine ⟨rfl, not_infix_of_count_lt ' ' ?_⟩
  rw [List.count_append, count_toString _ (by decide)]
  decide

theorem locationIn_append (before : String) (l : Location) :
    locationIn (before ++ "Line: " ++ toString l.line ++ ", Column: " ++ toString l.column) =
      if l.line < 2 ^ 64 ∧ l.column < 2 ^ 64 then some l else none := by
  have htext : (before ++ "Line: " ++ toString l.line ++ ", Column: " ++ toString l.column).toList =
      before.toList ++
        ("Line: ".toList ++ ((toString l.line).toList ++ ", Column: ".toList ++ (toString l.column).toList)) := by
    simp only [String.toList_append, List.append_assoc]
  rw [locationIn, htext, afterLast?_line]
  simp only [Option.bind_eq_bind, Option.bind_some, splitFirst?_column, trimChars_toString, takeWhile_isDigit_toString,
    number?_toString]
  by_cases hline : l.line < 2 ^ 64
  · by_cases hcolumn : l.column < 2 ^ 64
    · rw [if_pos hline, if_pos hcolumn, if_pos ⟨hline, hcolumn⟩]
      rfl
    · rw [if_pos hline, if_neg hcolumn, if_neg (not_and_of_not_right _ hcolumn)]
      rfl
  · rw [if_neg hline, if_neg (not_and_of_not_left _ hline)]
    rfl

/-- A message that ends with a place is kept whole, and it has this place, whatever stands before it, if both numbers fit
into 64 bits; if not, it has none. -/
theorem ofMessage_append_place (before : String) (l : Location) :
    let message := before ++ "Line: " ++ toString l.line ++ ", Column: " ++ toString l.column
    ofMessage message = .parse message (if l.line < 2 ^ 64 ∧ l.column < 2 ^ 64 then some l else none) := by
  intro message
  rw [ofMessage, locationIn_append]

example : locationIn "found: 'Line: 9, Column: 9' at Line: 1, Column: 8" = some ⟨1, 8⟩ := by decide

end SqlTemplate.Error
