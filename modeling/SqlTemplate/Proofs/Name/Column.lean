/-
Column references that are cut at their last dot outside quotes. The qualifier and the column are those that the
reference was written with if and only if the last piece of the cut is the column and there are no blanks around a
piece. This is so for identifiers that are plain, or stand in quotes that a cut knows: names made of them are taken apart
as they were put together. A cut does not know single quotes, and takes a dot between them for one that divides the
reference.
-/
import SqlTemplate.Proofs.Name.Parts

namespace SqlTemplate.Name

/-! ## Pieces -/

/-- What stands between the dots outside quotes. -/
def pieces (name : String) : List String := (splitChars none name.toList).map String.ofList

theorem parts_eq (name : String) : parts name = (pieces name).map Text.trim := by
  rw [parts, pieces, List.map_map]
  refine List.map_congr_left fun p _ => ?_
  rw [Function.comp_apply, Text.trim, String.toList_ofList]

theorem exists_splitChars_eq_cons (closer : Option Char) (cs : List Char) : ∃ p ps, splitChars closer cs = p :: ps := by
  cases cs with
  | nil => exact ⟨[], [], by rw [splitChars]⟩
  | cons c cs =>
    have hhead (ps : List (List Char)) : ∃ p ps', splitChars.consHead c ps = p :: ps' := by
      cases ps with
      | nil => exact ⟨_, _, rfl⟩
      | cons p ps => exact ⟨_, _, rfl⟩
    cases closer with
    | some q => exact hhead _
    | none =>
      rw [splitChars]
      split
      · exact ⟨_, _, rfl⟩
      · exact hhead _

theorem intercalate_consHead (c : Char) (p : List Char) (ps : List (List Char)) :
    ['.'].intercalate (splitChars.consHead c (p :: ps)) = c :: ['.'].intercalate (p :: ps) := by
  cases ps with
  | nil => rw [splitChars.consHead, List.intercalate_singleton, List.intercalate_singleton]
  | cons q ps =>
    rw [splitChars.consHead, List.intercalate_cons_cons, List.intercalate_cons_cons]
    rfl

/-- Cutting loses nothing but dots. -/
theorem intercalate_splitChars (closer : Option Char) (cs : List Char) : ['.'].intercalate (splitChars closer cs) = cs := by
  induction cs generalizing closer with
  | nil => rw [splitChars, List.intercalate_singleton]
  | cons c cs ih =>
    have hhead (closer' : Option Char) : ['.'].intercalate (splitChars.consHead c (splitChars closer' cs)) = c :: cs := by
      obtain ⟨p, ps, hps⟩ := exists_splitChars_eq_cons closer' cs
      rw [hps, intercalate_consHead, ← hps, ih]
    cases closer with
    | some q => exact hhead _
    | none =>
      rw [splitChars]
      split
      · rename_i hdot
        obtain ⟨p, ps, hps⟩ := exists_splitChars_eq_cons none cs
        rw [hps, List.intercalate_cons_cons, ← hps, ih, beq_iff_eq.1 hdot]
        rfl
      · exact hhead _

theorem join_pieces (name : String) : Text.join "." (pieces name) = name := by
  apply String.toList_injective
  rw [pieces, Text.join, String.toList_intercalate, List.map_map]
  have hmap : (splitChars none name.toList).map (String.toList ∘ String.ofList) = splitChars none name.toList :=
    (List.map_congr_left fun _ _ => String.toList_ofList).trans (List.map_id _)
  rw [hmap]
  exact intercalate_splitChars none name.toList

theorem exists_pieces_eq_concat (name : String) : ∃ leading last, pieces name = leading ++ [last] := by
  obtain ⟨p, ps, hps⟩ := exists_splitChars_eq_cons none name.toList
  refine (List.eq_nil_or_concat (pieces name)).elim (fun h => ?_) fun ⟨leading, last, h⟩ => ⟨leading, last, ?_⟩
  · rw [pieces, hps] at h
    cases h
  · rw [h, List.concat_eq_append]

/-! ## Blanks around pieces -/

theorem join_cons_cons (p q : String) (ps : List String) :
    Text.join "." (p :: q :: ps) = p ++ "." ++ Text.join "." (q :: ps) := String.intercalate_cons_cons

theorem length_join_trim_le (ps : List String) : (Text.join "." (ps.map Text.trim)).length ≤ (Text.join "." ps).length := by
  induction ps with
  | nil => exact Nat.le_refl _
  | cons p ps ih =>
    have hp := Text.length_trim_le p
    cases ps with
    | nil => exact hp
    | cons q ps =>
      rw [List.map_cons, List.map_cons, join_cons_cons, join_cons_cons]
      rw [List.map_cons] at ih
      simp only [String.length_append]
      omega

/-- Pieces that are as long together without the blanks around them have no blanks around them. -/
theorem trim_eq_self_of_join {ps : List String}
    (h : (Text.join "." (ps.map Text.trim)).length = (Text.join "." ps).length) : ∀ p ∈ ps, Text.trim p = p := by
  induction ps with
  | nil => exact List.forall_mem_nil _
  | cons p ps ih =>
    cases ps with
    | nil => exact List.forall_mem_singleton.2 (Text.trim_eq_self_of_length p h)
    | cons q ps =>
      have hp := Text.length_trim_le p
      have hps := length_join_trim_le (q :: ps)
      rw [List.map_cons, List.map_cons, join_cons_cons, join_cons_cons] at h
      rw [List.map_cons] at hps ih
      simp only [String.length_append] at h
      exact List.forall_mem_cons.2 ⟨Text.trim_eq_self_of_length p (by omega), ih (by omega)⟩

/-! ## Qualifier and column -/

/-- What stands before the last part of a reference. -/
def qualifier : List String → Option String
  | [] => none
  | p :: ps => some (Text.join "." (p :: ps))

/-- A column with its qualifier before it. -/
def qualified : Option String → String → String
  | none, column => column
  | some q, column => q ++ "." ++ column

theorem qualified_qualifier (leading : List String) (last : String) :
    qualified (qualifier leading) last = Text.join "." (leading ++ [last]) := by
  cases leading with
  | nil => rfl
  | cons p ps => exact (String.intercalate_append_of_ne_nil (List.cons_ne_nil p ps) (List.cons_ne_nil last [])).symm

theorem eq_of_qualified_eq {q q' : Option String} {column : String} (h : qualified q column = qualified q' column) :
    q = q' := by
  have hdot : ".".length = 1 := by decide
  have hlength := congrArg String.length h
  cases q with
  | none =>
    cases q' with
    | none => rfl
    | some q' =>
      simp only [qualified, String.length_append] at hlength
      omega
  | some q =>
    cases q' with
    | none =>
      simp only [qualified, String.length_append] at hlength
      omega
    | some q' =>
      have hq : q ++ ("." ++ column) = q' ++ ("." ++ column) := by
        rw [← String.append_assoc, ← String.append_assoc]
        exact h
      rw [(String.append_left_inj _).1 hq]

/-- A reference of one part keeps its text, which is that part without the blanks around it. -/
theorem splitColumn_eq {reference column : String} {leading : List String} (h : parts reference = leading ++ [column]) :
    splitColumn reference = (qualifier leading, column) := by
  cases leading with
  | nil =>
    have hpieces := parts_eq reference
    rw [h] at hpieces
    obtain ⟨p, hp, rfl⟩ := List.map_eq_singleton_iff.1 hpieces.symm
    have hreference : p = reference := by rw [← join_pieces reference, hp]; rfl
    rw [splitColumn, h, hreference]
    rfl
  | cons p ps =>
    rw [splitColumn, h, List.dropLast_concat, List.getLast?_concat]
    rfl

/-- A reference written as `leading` and `last` is taken apart as it was put together if and only if the last piece of
it is `last` and no piece has blanks around it. -/
theorem splitColumn_eq_iff {leading : List String} {last reference : String}
    (h : reference = Text.join "." (leading ++ [last])) :
    splitColumn reference = (qualifier leading, last) ↔
      (pieces reference).getLast? = some last ∧ ∀ p ∈ pieces reference, Text.trim p = p := by
  obtain ⟨init, p, hpieces⟩ := exists_pieces_eq_concat reference
  have hparts : parts reference = init.map Text.trim ++ [Text.trim p] := by rw [parts_eq, hpieces, List.map_append]; rfl
  have hjoin : Text.join "." (init ++ [p]) = reference := by rw [← hpieces, join_pieces]
  rw [splitColumn_eq hparts, hpieces, List.getLast?_concat]
  constructor
  · intro heq
    obtain ⟨hqualifier, hlast⟩ := Prod.mk.inj heq
    have htrimmed : Text.join "." ((init ++ [p]).map Text.trim) = Text.join "." (init ++ [p]) := by
      rw [hjoin, h, ← qualified_qualifier leading, ← hqualifier, ← hlast, qualified_qualifier, List.map_append]
      rfl
    have hall := trim_eq_self_of_join (congrArg String.length htrimmed)
    exact ⟨by rw [← hlast, hall p (by simp)], hall⟩
  · rintro ⟨hlast, hall⟩
    obtain rfl := Option.some.inj hlast
    have hinit : init.map Text.trim = init :=
      (List.map_congr_left fun q hq => hall q (List.mem_append_left _ hq)).trans (List.map_id _)
    have hwhole : qualified (qualifier init) p = qualified (qualifier leading) p := by
      rw [qualified_qualifier, qualified_qualifier, hjoin, h]
    rw [hinit, hall p (by simp), eq_of_qualified_eq hwhole]

/-! ## Names put together from parts -/

/-- Parts that are plain or in quotes are found again where they were put together. -/
theorem pieces_text (n : Qualified) : pieces n.text = n.parts.map Part.text ∧ ∀ p ∈ pieces n.text, Text.trim p = p := by
  have hpieces : pieces n.text = n.parts.map Part.text := by
    rw [pieces, toList_text, splitChars_intercalate n.nonempty, List.map_map]
    rfl
  refine ⟨hpieces, ?_⟩
  rw [hpieces, List.forall_mem_map]
  intro p _
  rw [Text.trim, Part.text, String.toList_ofList, p.trimChars_chars]

/-- A name is taken apart as it was put together: into all its parts, and, as a column reference, into what stands before
its last part and that part. -/
theorem parts_splitColumn_text (n : Qualified) :
    parts n.text = n.parts.map Part.text ∧
      splitColumn n.text = (qualifier (n.parts.dropLast.map Part.text), (n.parts.getLast n.nonempty).text) := by
  refine ⟨parts_text n, splitColumn_eq ?_⟩
  calc parts n.text = n.parts.map Part.text := parts_text n
    _ = (n.parts.dropLast ++ [n.parts.getLast n.nonempty]).map Part.text := by rw [List.dropLast_concat_getLast]
    _ = n.parts.dropLast.map Part.text ++ [(n.parts.getLast n.nonempty).text] := List.map_append

example : parts "\"my.schema\".\"a\"\".\"\"b\".[x.\"y].t" =
    ["\"my.schema\"", "\"a\"\".\"\"b\"", "[x.\"y]", "t"] := by decide

end SqlTemplate.Name
