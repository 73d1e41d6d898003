/-
The ends of a text: a start that is taken away, and blanks that are trimmed.
-/
import SqlTemplate.Text.Chars
import Mathlib.Data.List.Basic

namespace SqlTemplate.Text

variable {start cs rest : List Char}

/-! ## Starts -/

theorem dropStart?_eq_some_iff : dropStart? start cs = some rest ↔ cs = start ++ rest := by
  rw [dropStart?, Option.ite_none_right_eq_some, List.isPrefixOf_iff_prefix, Option.some_inj]
  constructor
  · rintro ⟨⟨rest', rfl⟩, rfl⟩
    rw [List.drop_left]
  · rintro rfl
    exact ⟨List.prefix_append _ _, List.drop_left⟩

theorem dropStart?_eq_none_iff : dropStart? start cs = none ↔ ¬ start <+: cs := by
  rw [dropStart?, ite_eq_right_iff, List.isPrefixOf_iff_prefix]
  simp

/-! ## Blanks -/

theorem isBlank_of_isDigit {c : Char} (h : c.isDigit = true) : Text.isBlank c = false := by
  simp only [Char.isDigit, Bool.and_eq_true, decide_eq_true_eq] at h
  have hlow : 48 ≤ c.toNat := h.1
  have hhigh : c.toNat ≤ 57 := h.2
  simp only [Text.isBlank, Bool.or_eq_false_iff, Bool.and_eq_false_iff, decide_eq_false_iff_not, beq_eq_false_iff_ne]
  omega

theorem trimLeft_eq_self (h : cs.head?.all (fun c => !isBlank c) = true) : trimLeft cs = cs := by
  cases cs with
  | nil => rfl
  | cons c cs =>
    have hc : isBlank c = false := by simpa using h
    exact List.dropWhile_cons_of_neg (by simp [hc])

theorem trimChars_eq_self (h : cs.head?.all (fun c => !isBlank c) = true)
    (h' : cs.getLast?.all (fun c => !isBlank c) = true) : trimChars cs = cs := by
  have hreverse : trimLeft cs.reverse = cs.reverse := trimLeft_eq_self (by rwa [List.head?_reverse])
  rw [trimChars, trimLeft_eq_self h, hreverse, List.reverse_reverse]

theorem trim_toList_sublist (s : String) : (trim s).toList.Sublist s.toList := by
  rw [trim, String.toList_ofList, trimChars]
  have hright : (trimLeft (trimLeft s.toList).reverse).reverse.Sublist (trimLeft s.toList) := by
    rw [← List.reverse_sublist, List.reverse_reverse]
    exact List.dropWhile_sublist _
  exact hright.trans (List.dropWhile_sublist _)

theorem length_trim_le (s : String) : (trim s).length ≤ s.length := (trim_toList_sublist s).length_le

theorem trim_eq_self_of_length (s : String) (h : (trim s).length = s.length) : trim s = s :=
  String.toList_injective ((trim_toList_sublist s).eq_of_length h)

end SqlTemplate.Text
