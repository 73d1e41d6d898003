/-
Names of identifiers, and which of them a cut at the dots outside quotes takes apart where they were put together. An
identifier that is plain or stands in double quotes, backticks or brackets is a part of a name, if its quotes can be
told from the text between them.
-/
import SqlTemplate.Proofs.Name.Column
import SqlTemplate.Proofs.Token.Words

namespace SqlTemplate

/-! ## Quotes inside quotes -/

namespace Name.Quote

theorem admits_cons {q : Quote} {c : Char} (hc : c ≠ q.closing) (cs : List Char) : q.admits (c :: cs) = q.admits cs := by
  cases cs with
  | nil => simpa [admits] using hc
  | cons d cs => rw [admits, if_neg (by simpa using hc)]

theorem admits_of_not_mem (q : Quote) {cs : List Char} (h : q.closing ∉ cs) : q.admits cs = true := by
  induction cs with
  | nil => rfl
  | cons c cs ih =>
    have hc : c ≠ q.closing := by
      rintro rfl
      exact h List.mem_cons_self
    rw [admits_cons hc, ih fun hmem => h (List.mem_cons_of_mem _ hmem)]

theorem admits_pair {q : Quote} (hq : q ≠ .bracket) (cs : List Char) :
    q.admits (q.closing :: q.closing :: cs) = q.admits cs := by
  rw [admits, if_pos (beq_self_eq_true _)]
  simp [hq]

theorem closing_ne_backslash (q : Quote) : q.closing ≠ '\\' := by
  cases q <;> decide

/-- Where no backslash stands before it, each quote inside is printed as a pair. -/
theorem admits_doubleQuotes {q : Quote} (hq : q ≠ .bracket) {previous : Char} (hp : previous ≠ '\\') {cs : List Char}
    (hcs : '\\' ∉ cs) : q.admits (doubleQuotes q.closing previous cs) = true := by
  -- at the end; a quote at the end, before another one, before something else; and any other character
  induction previous, cs using doubleQuotes.induct q.closing with
  | case1 previous =>
    rw [doubleQuotes]
    rfl
  | case2 previous c hc =>
    obtain rfl : c = q.closing := by simpa [hp] using hc
    rw [doubleQuotes.eq_def]
    simp only [hc, if_true]
    exact admits_pair hq []
  | case3 previous c hc e rest he ih =>
    obtain rfl : c = q.closing := by simpa [hp] using hc
    rw [doubleQuotes.eq_def]
    simp only [hc, he, if_true]
    rw [admits_pair hq]
    exact ih q.closing_ne_backslash fun h => hcs (by simp [h])
  | case4 previous c hc e rest he ih =>
    obtain rfl : c = q.closing := by simpa [hp] using hc
    rw [doubleQuotes.eq_def]
    simp only [hc, he, if_true]
    rw [if_neg Bool.false_ne_true, admits_pair hq]
    exact ih q.closing_ne_backslash fun h => hcs (List.mem_cons_of_mem _ h)
  | case5 previous c rest hc ih =>
    have hne : c ≠ q.closing := by simpa [hp] using hc
    rw [doubleQuotes.eq_def]
    simp only [beq_false_of_ne hne, Bool.false_and, Bool.false_eq_true, if_false]
    rw [beq_false_of_ne hne] at ih
    rw [admits_cons hne]
    refine ih ?_ fun h => hcs (List.mem_cons_of_mem _ h)
    rintro rfl
    exact hcs List.mem_cons_self

end Name.Quote

/-! ## Identifiers -/

/-- An identifier that a cut knows: a plain one, or one in double quotes, in backticks or in brackets. No backslash is
in quotes, since the quote after it would not be doubled, and no bracket in brackets. -/
inductive Ident.Regular : Ident → Prop
  | plain (text : String) (isPlain : Name.isPlain text.toList = true) : Regular ⟨text, none⟩
  | quoted (q : Name.Quote) (isQuote : q ≠ .bracket) (text : String) (noBackslash : '\\' ∉ text.toList) :
      Regular ⟨text, some q.opening⟩
  | bracketed (text : String) (noBracket : ']' ∉ text.toList) : Regular ⟨text, some '['⟩

/-- It is a part of a name. -/
theorem Ident.Regular.exists_part {i : Ident} (h : i.Regular) : ∃ p : Name.Part, p.text = i.print := by
  cases h with
  | plain text hplain => exact ⟨.plain text.toList hplain, String.ofList_toList⟩
  | quoted q hq text hbackslash =>
    refine ⟨.quoted q (doubleQuotes q.closing '\x00' text.toList) (q.admits_doubleQuotes hq (by decide) hbackslash), ?_⟩
    apply String.toList_injective
    have hprint : (Ident.print ⟨text, some q.opening⟩).toList = (quoteText q.opening text).toList := by
      cases q with
      | double => rfl
      | back => rfl
      | bracket => exact absurd rfl hq
    rw [hprint, Lexer.toList_quoteText, Name.Part.text, String.toList_ofList, Name.Part.chars, Name.Quote.opening_eq hq]
  | bracketed text hbracket =>
    refine ⟨.quoted .bracket text.toList (Name.Quote.bracket.admits_of_not_mem hbracket), ?_⟩
    have hprint : Ident.print ⟨text, some '['⟩ = "[" ++ text ++ "]" := rfl
    apply String.toList_injective
    rw [hprint, Name.Part.text, String.toList_ofList, String.toList_append, String.toList_append]
    rfl

/-! ## Names -/

/-- The last part of a name; a name without parts prints as if it had an empty one. -/
def ObjectName.last (name : ObjectName) : String := (name.getLast?.map Ident.print).getD ""

theorem ObjectName.print_eq_join (name : ObjectName) :
    name.print = Text.join "." (name.dropLast.map Ident.print ++ [name.last]) := by
  rcases List.eq_nil_or_concat name with rfl | ⟨leading, i, rfl⟩
  · rfl
  · rw [List.concat_eq_append, List.dropLast_concat, last, List.getLast?_concat, print, List.map_append]
    rfl

/-- The text of the name, cut at the dots outside quotes, has no blanks around a piece, and the last piece is the last
part. -/
def ObjectName.Whole (name : ObjectName) : Prop :=
  (Name.pieces name.print).getLast? = some name.last ∧ ∀ p ∈ Name.pieces name.print, Text.trim p = p

theorem ObjectName.exists_parts {name : ObjectName} (h : ∀ i ∈ name, i.Regular) :
    ∃ ps : List Name.Part, ps.map Name.Part.text = name.map Ident.print := by
  induction name with
  | nil => exact ⟨[], rfl⟩
  | cons i is ih =>
    obtain ⟨hi, his⟩ := List.forall_mem_cons.1 h
    obtain ⟨p, hp⟩ := hi.exists_part
    obtain ⟨ps, hps⟩ := ih his
    exact ⟨p :: ps, by rw [List.map_cons, hp, hps, List.map_cons]⟩

/-- Names of such identifiers are whole. -/
theorem ObjectName.whole_of_regular {name : ObjectName} (h : ∀ i ∈ name, i.Regular) : name.Whole := by
  obtain ⟨ps, hps⟩ := ObjectName.exists_parts h
  cases name with
  | nil => exact ⟨by decide, by decide⟩
  | cons i is =>
    have hne : ps ≠ [] := by
      rintro rfl
      cases hps
    obtain ⟨hpieces, htrimmed⟩ := Name.pieces_text ⟨ps, hne⟩
    have hprint : Name.Qualified.text ⟨ps, hne⟩ = ObjectName.print (i :: is) := congrArg (Text.join ".") hps
    rw [hprint] at hpieces htrimmed
    refine ⟨?_, htrimmed⟩
    rw [hpieces, hps, List.getLast?_map, ObjectName.last, List.getLast?_cons]
    rfl

end SqlTemplate
