/-
Qualified names put together from parts. Joined by dots and cut again, they are the parts that they were: a quote is
open only inside a quoted part, since a pair of quotes that stands for one of them closes it and opens it again at once.
The key of such a name is made of the keys of its parts.
-/
import SqlTemplate.Name
import SqlTemplate.Proofs.Text.Ends
import Mathlib.Data.List.Basic

namespace SqlTemplate.Name

/-! ## Parts -/

/-- The quotes that an identifier can stand in. -/
inductive Quote where
  | double
  | back
  | bracket
deriving DecidableEq

namespace Quote

def opening : Quote → Char
  | .double => '"'
  | .back => '\x60'
  | .bracket => '['

def closing : Quote → Char
  | .double => '"'
  | .back => '\x60'
  | .bracket => ']'

/-- What can stand between the quotes: the closing quote only twice in a row, and in brackets not at all. -/
def admits (q : Quote) : List Char → Bool
  | [] => true
  | [c] => c != q.closing
  | c :: d :: cs => if c == q.closing then q != .bracket && d == q.closing && q.admits cs else q.admits (d :: cs)

end Quote

/-- Characters that do not stand in a plain part. -/
def isSpecial (c : Char) : Bool := c == '.' || c == '"' || c == '\x60' || c == '[' || c == ']'

/-- A text without dots, quotes and brackets, and without blanks at its ends. -/
def isPlain (text : List Char) : Bool :=
  text.all (fun c => !isSpecial c) && text.head?.all (fun c => !Text.isBlank c) &&
    text.getLast?.all fun c => !Text.isBlank c

/-- A part of a qualified name as SQL writes it. -/
inductive Part where
  | plain (text : List Char) (isPlain : isPlain text = true)
  | quoted (q : Quote) (body : List Char) (isBody : q.admits body = true)

namespace Part

def chars : Part → List Char
  | .plain text _ => text
  | .quoted q body _ => q.opening :: (body ++ [q.closing])

def text (p : Part) : String := String.ofList p.chars

/-- What a part is compared by: a plain one without regard to ASCII case, a quoted one exactly. -/
def key : Part → List Char
  | .plain text _ => text.map Char.toLower
  | .quoted _ body _ => body

end Part

/-- A qualified name: one part or more. -/
structure Qualified where
  parts : List Part
  nonempty : parts ≠ []

namespace Qualified

/-- The parts with dots between them. -/
def text (n : Qualified) : String := Text.join "." (n.parts.map Part.text)

def keys (n : Qualified) : List (List Char) := n.parts.map Part.key

end Qualified

/-! ## Quotes that are opened and closed -/

theorem Quote.closing?_opening (q : Quote) : closing? q.opening = some q.closing := by
  cases q <;> rfl

theorem Quote.isBlank_quotes (q : Quote) : Text.isBlank q.opening = false ∧ Text.isBlank q.closing = false := by
  cases q <;> exact ⟨rfl, rfl⟩

theorem Quote.opening_ne_dot (q : Quote) : q.opening ≠ '.' := by
  cases q <;> decide

theorem Quote.isSpecial_opening (q : Quote) : isSpecial q.opening = true := by
  cases q <;> rfl

theorem Quote.opening_injective : Function.Injective opening := by
  intro q r
  cases q <;> cases r <;> decide

/-- A closing quote that is not a bracket opens a quoted text as well. -/
theorem Quote.opening_eq {q : Quote} (h : q ≠ .bracket) : q.opening = q.closing := by
  cases q with
  | double => rfl
  | back => rfl
  | bracket => exact absurd rfl h

theorem closing?_of_not_isSpecial {c : Char} (h : isSpecial c = false) : closing? c = none := by
  simp only [isSpecial, Bool.or_eq_false_iff] at h
  obtain ⟨⟨⟨⟨-, hdouble⟩, hback⟩, hbracket⟩, -⟩ := h
  rw [closing?, hdouble, hback, hbracket]
  rfl

/-- Reading `cs` cuts nowhere, and takes the quote that is open from `before` to `after`. -/
def Uncut (before : Option Char) (cs : List Char) (after : Option Char) : Prop :=
  ∀ rest p ps, splitChars after rest = p :: ps → splitChars before (cs ++ rest) = (cs ++ p) :: ps

namespace Uncut

variable {before middle after : Option Char} {cs ds : List Char} {c q : Char}

theorem nil : Uncut before [] before := fun _ _ _ h => h

theorem append (h : Uncut before cs middle) (h' : Uncut middle ds after) : Uncut before (cs ++ ds) after := by
  intro rest p ps hrest
  rw [List.append_assoc, h _ _ _ (h' rest p ps hrest), List.append_assoc]

/-- Outside quotes, any character but a dot; it may open a quote. -/
theorem outside (h : c ≠ '.') : Uncut none [c] (closing? c) := by
  intro rest p ps hrest
  rw [List.singleton_append, splitChars, if_neg (by simpa using h), hrest]
  rfl

/-- Inside quotes, any character; the one that is waited for closes the quote. -/
theorem inside (q c : Char) : Uncut (some q) [c] (if c == q then none else some q) := by
  intro rest p ps hrest
  rw [List.singleton_append, splitChars, hrest]
  rfl

theorem plain (h : cs.all (fun c => !isSpecial c) = true) : Uncut none cs none := by
  induction cs with
  | nil => exact nil
  | cons c cs ih =>
    rw [List.all_cons, Bool.and_eq_true, Bool.not_eq_true'] at h
    have hdot : c ≠ '.' := by
      rintro rfl
      exact absurd h.1 (by decide)
    have hc := outside hdot
    rw [closing?_of_not_isSpecial h.1] at hc
    exact hc.append (ih h.2)

theorem body {q : Quote} (h : q.admits cs = true) : Uncut (some q.closing) cs (some q.closing) := by
  induction cs using Quote.admits.induct (q := q) with
  | case1 => exact nil
  | case2 c =>
    have hc : c ≠ q.closing := by simpa [Quote.admits] using h
    simpa [hc] using inside q.closing c
  | case3 c d cs hc ih =>
    -- the first quote of a pair closes, the second one opens again
    rw [Quote.admits, if_pos hc] at h
    simp only [Bool.and_eq_true, bne_iff_ne, beq_iff_eq] at h
    obtain ⟨⟨hq, rfl⟩, hcs⟩ := h
    obtain rfl := beq_iff_eq.1 hc
    have hclose : Uncut (some q.closing) [q.closing] none := by simpa using inside q.closing q.closing
    have hopen := outside q.opening_ne_dot
    rw [q.closing?_opening, Quote.opening_eq hq] at hopen
    exact hclose.append (hopen.append (ih hcs))
  | case4 c d cs hc ih =>
    rw [Quote.admits, if_neg hc] at h
    have hkeep := inside q.closing c
    rw [if_neg hc] at hkeep
    exact hkeep.append (ih h)

theorem part (p : Part) : Uncut none p.chars none := by
  cases p with
  | plain text h =>
    simp only [isPlain, Bool.and_eq_true] at h
    exact plain h.1.1
  | quoted q body h =>
    have hopen := outside q.opening_ne_dot
    rw [q.closing?_opening] at hopen
    have hclose : Uncut (some q.closing) [q.closing] none := by simpa using inside q.closing q.closing
    exact hopen.append ((Uncut.body h).append hclose)

end Uncut

/-! ## Cutting what was joined -/

theorem splitChars_intercalate {ps : List Part} (h : ps ≠ []) :
    splitChars none (['.'].intercalate (ps.map Part.chars)) = ps.map Part.chars := by
  induction ps with
  | nil => exact absurd rfl h
  | cons p ps ih =>
    cases ps with
    | nil =>
      have hp := Uncut.part p [] [] [] rfl
      rw [List.append_nil] at hp
      rw [List.map_singleton, List.intercalate_singleton, hp]
    | cons r ps =>
      have hdot : splitChars none ('.' :: ['.'].intercalate ((r :: ps).map Part.chars)) =
          [] :: (r :: ps).map Part.chars := by
        rw [splitChars, if_pos (by decide), ih (by simp)]
      have hp := Uncut.part p _ _ _ hdot
      rw [List.append_nil] at hp
      rw [List.map_cons, List.map_cons, List.intercalate_cons_cons, List.append_assoc]
      exact hp

theorem toList_text (n : Qualified) : n.text.toList = ['.'].intercalate (n.parts.map Part.chars) := by
  rw [Qualified.text, Text.join, String.toList_intercalate, List.map_map]
  exact congrArg _ (List.map_congr_left fun p _ => String.toList_ofList)

/-- There are no blanks around a part. -/
theorem Part.trimChars_chars (p : Part) : Text.trimChars p.chars = p.chars := by
  cases p with
  | plain text h =>
    simp only [isPlain, Bool.and_eq_true] at h
    exact Text.trimChars_eq_self h.1.2 h.2
  | quoted q body h =>
    obtain ⟨hopen, hclose⟩ := q.isBlank_quotes
    refine Text.trimChars_eq_self ?_ ?_
    · simp [chars, hopen]
    · rw [chars, ← List.cons_append, List.getLast?_concat]
      simp [hclose]

theorem parts_text (n : Qualified) : parts n.text = n.parts.map Part.text := by
  rw [parts, toList_text, splitChars_intercalate n.nonempty, List.map_map]
  refine List.map_congr_left fun p _ => ?_
  rw [Function.comp_apply, p.trimChars_chars]
  rfl

theorem Part.ne_quoted_of_isPlain {text body : List Char} (hp : Name.isPlain text = true) (q : Quote) :
    text ≠ q.opening :: (body ++ [q.closing]) := by
  rintro rfl
  simp only [isPlain, List.all_cons, q.isSpecial_opening] at hp
  cases hp

theorem Part.chars_injective : Function.Injective chars := by
  intro p r h
  cases p with
  | plain text hp =>
    cases r with
    | plain text' hr =>
      obtain rfl : text = text' := h
      rfl
    | quoted q body hr => exact absurd h (ne_quoted_of_isPlain hp q)
  | quoted q body hp =>
    cases r with
    | plain text hr => exact absurd h.symm (ne_quoted_of_isPlain hr q)
    | quoted q' body' hr =>
      obtain ⟨hq, hbody⟩ := List.cons.inj h
      obtain rfl := Quote.opening_injective hq
      obtain rfl := List.append_cancel_right hbody
      rfl

/-- A text is the text of no more than one name. -/
theorem text_injective : Function.Injective Qualified.text := by
  intro m n h
  have hparts : m.parts.map Part.text = n.parts.map Part.text := by rw [← parts_text, h, parts_text]
  have hinjective : Function.Injective Part.text := fun _ _ h => Part.chars_injective (String.ofList_injective h)
  have hequal := List.map_injective_iff.2 hinjective hparts
  cases m
  cases n
  cases hequal
  rfl

/-! ## Keys -/

theorem key_text (p : Part) : key p.text = String.ofList p.key := by
  rw [key, Part.text, String.toList_ofList, p.trimChars_chars]
  cases p with
  | plain text h =>
    have hinner : inner? text = none := by
      cases text with
      | nil => rfl
      | cons c cs =>
        simp only [isPlain, List.all_cons, Bool.and_eq_true, Bool.not_eq_true'] at h
        have hc : closing? c = none := closing?_of_not_isSpecial h.1.1.1
        rw [inner?]
        cases cs.getLast? with
        | none => rfl
        | some last => rw [hc]; rfl
    simp only [Part.chars, hinner, Part.key]
  | quoted q body h =>
    have hinner : inner? (Part.quoted q body h).chars = some body := by
      simp [Part.chars, inner?, q.closing?_opening]
    simp only [hinner, Part.key]

theorem map_key_parts (n : Qualified) : (parts n.text).map key = n.keys.map String.ofList := by
  rw [parts_text, Qualified.keys, List.map_map, List.map_map]
  exact List.map_congr_left fun p _ => key_text p

theorem toList_objectKey (n : Qualified) : (objectKey n.text).toList = ['.'].intercalate n.keys := by
  rw [objectKey, map_key_parts, Text.join, String.toList_intercalate, List.map_map]
  exact congrArg _ ((List.map_congr_left fun _ _ => String.toList_ofList).trans (List.map_id _))

/-- Names that are written alike have the same keys. -/
theorem keys_eq_of_text_eq {m n : Qualified} (h : m.text = n.text) : m.keys = n.keys :=
  congrArg Qualified.keys (text_injective h)

end SqlTemplate.Name
