/-
Printed texts with marks in them. A mark says what is printed at a place of the text and where it starts;
the marks are listed in the order of a walk over the tree that is printed, which need not be the order of
the text. Such texts are put together as the printer puts texts together, so that a mark has its place by
construction.

Main statement: the marks come in the order of the text if and only if the walk has nothing to list on
one side of each place where it goes first to what is printed second. Every marked text carries this as
an invariant.
-/
import SqlTemplate.Tree.Print
import Mathlib.Data.List.Basic

namespace SqlTemplate

variable {α : Type}

/-! ## Marks -/

/-- Something that a walk lists: the text that it prints as and where that starts, if it is printed at all. -/
structure Mark (α : Type) where
  start : Option Nat
  text : String
  item : α

namespace Mark

def shift (n : Nat) (m : Mark α) : Mark α := { m with start := m.start.map (n + ·) }

/-- The mark of something that is left out of the text. -/
def hide (m : Mark α) : Mark α := { m with start := none }

/-- The text of the mark stands where the mark says. -/
def StandsIn (m : Mark α) (text : String) : Prop :=
  ∀ i, m.start = some i → ∃ before after, text = before ++ m.text ++ after ∧ before.length = i

variable {m : Mark α} {text : String}

theorem StandsIn.le_length (h : m.StandsIn text) {i : Nat} (hi : m.start = some i) : i ≤ text.length := by
  obtain ⟨before, after, rfl, rfl⟩ := h i hi
  rw [String.append_assoc, String.length_append]
  exact Nat.le_add_right _ _

theorem StandsIn.append (h : m.StandsIn text) (rest : String) : m.StandsIn (text ++ rest) := by
  intro i hi
  obtain ⟨before, after, rfl, hlength⟩ := h i hi
  exact ⟨before, after ++ rest, by simp only [String.append_assoc], hlength⟩

theorem StandsIn.shift (h : m.StandsIn text) (pre : String) : (m.shift pre.length).StandsIn (pre ++ text) := by
  intro i hi
  obtain ⟨j, hj, rfl⟩ := Option.map_eq_some_iff.1 hi
  obtain ⟨before, after, rfl, rfl⟩ := h j hj
  exact ⟨pre ++ before, after, by simp only [Mark.shift, String.append_assoc], String.length_append pre before⟩

theorem standsIn_hide (m : Mark α) (text : String) : m.hide.StandsIn text := fun _ h => nomatch h

end Mark

/-- Where the marks start that are printed. -/
def starts (ms : List (Mark α)) : List Nat := ms.filterMap Mark.start

/-- The marks come in the order of the text. -/
def Sorted (ms : List (Mark α)) : Prop := (starts ms).Pairwise (· ≤ ·)

instance (ms : List (Mark α)) : Decidable (Sorted ms) := inferInstanceAs (Decidable (List.Pairwise _ _))

section Starts

variable {ms ns : List (Mark α)} {text : String}

theorem starts_shift (n : Nat) (ms : List (Mark α)) : starts (ms.map (Mark.shift n)) = (starts ms).map (n + ·) := by
  rw [starts, starts, List.filterMap_map, List.map_filterMap]
  rfl

theorem starts_hide (ms : List (Mark α)) : starts (ms.map Mark.hide) = [] := by
  rw [starts, List.filterMap_map]
  exact List.filterMap_eq_nil_iff.2 fun _ _ => rfl

theorem le_length_of_mem_starts (h : ∀ m ∈ ms, m.StandsIn text) {i : Nat} (hi : i ∈ starts ms) : i ≤ text.length := by
  obtain ⟨m, hm, hi⟩ := List.mem_filterMap.1 hi
  exact (h m hm).le_length hi

theorem sorted_shift (n : Nat) (ms : List (Mark α)) : Sorted (ms.map (Mark.shift n)) ↔ Sorted ms := by
  rw [Sorted, starts_shift, List.pairwise_map]
  simp only [Nat.add_le_add_iff_left]
  rfl

theorem sorted_append : Sorted (ms ++ ns) ↔ Sorted ms ∧ Sorted ns ∧ ∀ i ∈ starts ms, ∀ j ∈ starts ns, i ≤ j := by
  rw [Sorted, starts, List.filterMap_append, List.pairwise_append]
  rfl

end Starts

/-! ## Marked texts -/

/-- A place where a walk goes first to what is printed second, with the marks of both parts. -/
structure Turn (α : Type) where
  first : List (Mark α)
  second : List (Mark α)

/-- The walk lists nothing that is printed in one of the parts. -/
def Turn.Idle (t : Turn α) : Prop := starts t.first = [] ∨ starts t.second = []

structure Marked (α : Type) where
  text : String
  marks : List (Mark α)
  turns : List (Turn α)
  stands : ∀ m ∈ marks, m.StandsIn text
  sorted_iff : Sorted marks ↔ ∀ t ∈ turns, t.Idle

namespace Marked

def plain (text : String) : Marked α where
  text := text
  marks := []
  turns := []
  stands := nofun
  sorted_iff := ⟨fun _ => nofun, fun _ => .nil⟩

/-- Two texts, one after the other. -/
def append (a b : Marked α) : Marked α where
  text := a.text ++ b.text
  marks := a.marks ++ b.marks.map (Mark.shift a.text.length)
  turns := a.turns ++ b.turns
  stands := by
    intro m hm
    rcases List.mem_append.1 hm with hm | hm
    · exact (a.stands m hm).append b.text
    · obtain ⟨m', hm', rfl⟩ := List.mem_map.1 hm
      exact (b.stands m' hm').shift a.text
  sorted_iff := by
    have hle : ∀ i ∈ starts a.marks, ∀ j ∈ starts (b.marks.map (Mark.shift a.text.length)), i ≤ j := by
      intro i hi j hj
      rw [starts_shift] at hj
      obtain ⟨j, -, rfl⟩ := List.mem_map.1 hj
      exact Nat.le_trans (le_length_of_mem_starts a.stands hi) (Nat.le_add_right _ _)
    rw [sorted_append, sorted_shift, a.sorted_iff, b.sorted_iff, and_iff_left hle, ← List.forall_mem_append]

instance : Append (Marked α) := ⟨append⟩

/-- Two texts with a space and a word between them, of which a walk visits the second one first. -/
def turned (a : Marked α) (word : String) (b : Marked α) : Marked α where
  text := a.text ++ (" " ++ word) ++ b.text
  marks := b.marks.map (Mark.shift (a.text ++ (" " ++ word)).length) ++ a.marks
  turns := ⟨a.marks, b.marks⟩ :: (a.turns ++ b.turns)
  stands := by
    intro m hm
    rcases List.mem_append.1 hm with hm | hm
    · obtain ⟨m', hm', rfl⟩ := List.mem_map.1 hm
      exact (b.stands m' hm').shift _
    · exact ((a.stands m hm).append _).append b.text
  sorted_iff := by
    have hlt : ∀ i j, j ≤ a.text.length → ¬ (a.text ++ (" " ++ word)).length + i ≤ j := by
      intro i j hj
      rw [String.length_append, String.length_append]
      have : " ".length = 1 := rfl
      omega
    have hidle : (∀ i ∈ starts (b.marks.map (Mark.shift (a.text ++ (" " ++ word)).length)), ∀ j ∈ starts a.marks, i ≤ j) ↔
        Turn.Idle ⟨a.marks, b.marks⟩ := by
      rw [starts_shift, Turn.Idle]
      constructor
      · intro h
        by_contra hboth
        obtain ⟨ha, hb⟩ := not_or.1 hboth
        obtain ⟨j, hj⟩ := List.exists_mem_of_ne_nil _ ha
        obtain ⟨i, hi⟩ := List.exists_mem_of_ne_nil _ hb
        exact hlt i j (le_length_of_mem_starts a.stands hj) (h _ (List.mem_map.2 ⟨i, hi, rfl⟩) j hj)
      · rintro (ha | hb) i hi j hj
        · rw [ha] at hj
          exact nomatch hj
        · rw [hb] at hi
          exact nomatch hi
    rw [sorted_append, sorted_shift, a.sorted_iff, b.sorted_iff, hidle, List.forall_mem_cons, List.forall_mem_append]
    tauto

/-- The text with a mark on the whole of it, which a walk lists before those inside. -/
def mark (x : α) (a : Marked α) : Marked α where
  text := a.text
  marks := ⟨some 0, a.text, x⟩ :: a.marks
  turns := a.turns
  stands := by
    intro m hm
    rcases List.mem_cons.1 hm with rfl | hm
    · rintro _ ⟨⟩
      exact ⟨"", "", by simp, rfl⟩
    · exact a.stands m hm
  sorted_iff := by
    rw [← a.sorted_iff]
    exact List.pairwise_cons.trans (and_iff_right fun i _ => Nat.zero_le i)

/-- Nothing, but with the marks of a text that is left out. -/
def hidden (a : Marked α) : Marked α where
  text := ""
  marks := a.marks.map Mark.hide
  turns := []
  stands := by
    intro m hm
    obtain ⟨m, -, rfl⟩ := List.mem_map.1 hm
    exact m.standsIn_hide ""
  sorted_iff := by
    rw [Sorted, starts_hide]
    exact ⟨fun _ => nofun, fun _ => .nil⟩

@[simp] theorem text_plain (text : String) : (plain text : Marked α).text = text := rfl

@[simp] theorem text_append (a b : Marked α) : (a ++ b).text = a.text ++ b.text := rfl

@[simp] theorem text_turned (a : Marked α) (word : String) (b : Marked α) :
    (turned a word b).text = a.text ++ (" " ++ word) ++ b.text := rfl

@[simp] theorem text_hidden (a : Marked α) : a.hidden.text = "" := rfl

/-! ### As the printer puts texts together -/

def enclosed (before : String) (a : Marked α) (after : String) : Marked α := plain before ++ a ++ plain after

def commas : List (Marked α) → Marked α
  | [] => plain ""
  | [a] => a
  | a :: b :: rest => a ++ plain ", " ++ commas (b :: rest)

def row : List (Marked α) → Marked α
  | [] => plain ""
  | a :: rest => plain " " ++ a ++ row rest

def apart (a : Marked α) : Marked α := if a.text.isEmpty then a else plain " " ++ a

def prefixed (before : String) : Option (Marked α) → Marked α
  | none => plain ""
  | some a => plain before ++ a

/-- The text where `b` holds, else nothing. -/
def given (b : Bool) (a : Marked α) : Marked α := if b then a else plain ""

def guarded (keyword : String) (a : Option (Marked α)) : Marked α := prefixed (" " ++ keyword ++ " ") a

/-- A keyword and the list after it, if there is one. -/
def opening (keyword : String) (as : List (Marked α)) : Marked α :=
  if as.isEmpty then plain "" else plain (keyword ++ " ") ++ commas as

def keywordList (keyword : String) (as : List (Marked α)) : Marked α := opening (" " ++ keyword) as

@[simp] theorem text_enclosed (before : String) (a : Marked α) (after : String) :
    (enclosed before a after).text = before ++ a.text ++ after := rfl

@[simp] theorem text_commas (as : List (Marked α)) : (commas as).text = Text.commas (as.map text) := by
  induction as with
  | nil => rfl
  | cons a as ih =>
    cases as with
    | nil => simp [commas, Text.commas, Text.join]
    | cons b rest =>
      have hcons : Text.commas (a.text :: b.text :: rest.map text) = a.text ++ ", " ++ Text.commas (b.text :: rest.map text) :=
        String.intercalate_cons_cons
      rw [commas, text_append, ih]
      exact hcons.symm

@[simp] theorem text_row (as : List (Marked α)) : (row as).text = spacedAll (as.map text) := by
  induction as with
  | nil => rfl
  | cons a as ih => simp [row, spacedAll, ih]

@[simp] theorem text_apart (a : Marked α) : a.apart.text = spaced a.text := by
  rw [apart, spaced]
  cases h : a.text.isEmpty with
  | true => simpa using h
  | false => rfl

@[simp] theorem text_prefixed (before : String) (a : Option (Marked α)) :
    (prefixed before a).text = match a.map text with | some t => before ++ t | none => "" := by
  cases a <;> rfl

@[simp] theorem text_given (b : Bool) (a : Marked α) : (given b a).text = Form.optional b a.text := by
  cases b <;> rfl

@[simp] theorem text_guarded (keyword : String) (a : Option (Marked α)) :
    (guarded keyword a).text = optionalExpr keyword (a.map text) := by
  cases a <;> rfl

@[simp] theorem text_keywordList (keyword : String) (as : List (Marked α)) :
    (keywordList keyword as).text = optionalList keyword (as.map text) := by
  cases as with
  | nil => rfl
  | cons a as => simp [keywordList, opening, optionalList]

/-- A list at the beginning of a text has no space before its keyword. -/
@[simp] theorem text_opening (keyword : String) (as : List (Marked α)) :
    (opening keyword as).text = ((optionalList keyword (as.map text)).drop 1).toString := by
  cases as with
  | nil => rfl
  | cons a as =>
    apply String.toList_injective
    simp [opening, optionalList]

end Marked

/-! ## What a walk lists -/

/-- What a mark says of its item, but for the place. -/
structure Entry (α : Type) where
  item : α
  text : String
  printed : Bool

def Mark.entry (m : Mark α) : Entry α := ⟨m.item, m.text, m.start.isSome⟩

namespace Marked

def entries (a : Marked α) : List (Entry α) := a.marks.map Mark.entry

theorem entry_shift (n : Nat) (ms : List (Mark α)) : (ms.map (Mark.shift n)).map Mark.entry = ms.map Mark.entry := by
  rw [List.map_map]
  refine List.map_congr_left fun m _ => ?_
  simp [Mark.entry, Mark.shift]

@[simp] theorem entries_plain (text : String) : (plain text : Marked α).entries = [] := rfl

@[simp] theorem entries_append (a b : Marked α) : (a ++ b).entries = a.entries ++ b.entries :=
  List.map_append.trans (congrArg (a.entries ++ ·) (entry_shift _ _))

@[simp] theorem entries_turned (a : Marked α) (word : String) (b : Marked α) :
    (turned a word b).entries = b.entries ++ a.entries :=
  List.map_append.trans (congrArg (· ++ a.entries) (entry_shift _ _))

@[simp] theorem entries_mark (x : α) (a : Marked α) : (mark x a).entries = ⟨x, a.text, true⟩ :: a.entries := rfl

@[simp] theorem entries_hidden (a : Marked α) : a.hidden.entries = a.entries.map fun e => { e with printed := false } := by
  rw [entries, entries, List.map_map]
  exact List.map_map

@[simp] theorem entries_enclosed (before : String) (a : Marked α) (after : String) :
    (enclosed before a after).entries = a.entries := by
  simp [enclosed]

@[simp] theorem entries_commas (as : List (Marked α)) : (commas as).entries = as.flatMap entries := by
  induction as with
  | nil => rfl
  | cons a as ih =>
    cases as with
    | nil => simp [commas]
    | cons b rest => simp [commas, ih]

@[simp] theorem entries_row (as : List (Marked α)) : (row as).entries = as.flatMap entries := by
  induction as with
  | nil => rfl
  | cons a as ih => simp [row, ih]

@[simp] theorem entries_apart (a : Marked α) : a.apart.entries = a.entries := by
  rw [apart]
  split <;> simp

@[simp] theorem entries_prefixed (before : String) (a : Option (Marked α)) :
    (prefixed before a).entries = a.toList.flatMap entries := by
  cases a <;> simp [prefixed]

@[simp] theorem entries_guarded (keyword : String) (a : Option (Marked α)) :
    (guarded keyword a).entries = a.toList.flatMap entries := entries_prefixed _ a

@[simp] theorem entries_opening (keyword : String) (as : List (Marked α)) :
    (opening keyword as).entries = as.flatMap entries := by
  cases as <;> simp [opening]

@[simp] theorem entries_keywordList (keyword : String) (as : List (Marked α)) :
    (keywordList keyword as).entries = as.flatMap entries := entries_opening _ as

/-! ### Where it turns -/

@[simp] theorem turns_plain (text : String) : (plain text : Marked α).turns = [] := rfl

@[simp] theorem turns_append (a b : Marked α) : (a ++ b).turns = a.turns ++ b.turns := rfl

@[simp] theorem turns_turned (a : Marked α) (word : String) (b : Marked α) :
    (turned a word b).turns = ⟨a.marks, b.marks⟩ :: (a.turns ++ b.turns) := rfl

@[simp] theorem turns_mark (x : α) (a : Marked α) : (mark x a).turns = a.turns := rfl

@[simp] theorem turns_commas (as : List (Marked α)) : (commas as).turns = as.flatMap turns := by
  induction as with
  | nil => rfl
  | cons a as ih =>
    cases as with
    | nil => simp [commas]
    | cons b rest => simp [commas, ih]

@[simp] theorem turns_prefixed (before : String) (a : Option (Marked α)) :
    (prefixed before a).turns = a.toList.flatMap turns := by
  cases a <;> simp [prefixed]

end Marked

end SqlTemplate
