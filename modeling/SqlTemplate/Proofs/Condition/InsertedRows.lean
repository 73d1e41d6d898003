/-
Rows of values that are inserted into listed columns. The rows are taken one after the other, and so are the values of
each: a row has to be as long as the list of columns, and a value must not be a row itself. If all are so, each value is
paired with its column, row by row; if not, the first row or value that is not so is the one that is reported.
-/
import SqlTemplate.Proofs.Condition.Collect
import SqlTemplate.Proofs.Grammar.Steps
import SqlTemplate.Proofs.Tree.Nested

namespace SqlTemplate

open Condition (Node pairing)

/-! ## Rows that fit, and the first fault of those that do not -/

namespace Condition

/-- The condition `column = value` of an inserted row. -/
def paired (c : Ident) (v : Expr) : Node :=
  .leaf .eq ⟨.insertValues, [c.print], 1, v.placeholderCount, c.print ++ " = " ++ v.print⟩

/-- A value that is a row itself. -/
def widthMismatch (v : Expr) : Error := .arity .eq "1" v.width

/-- There is one value for each column, and none of the values is a row. -/
structure Fits (columns : List Ident) (row : List Expr) : Prop where
  length : row.length = columns.length
  values : ∀ v ∈ row, v.width = 1

instance (columns : List Ident) (row : List Expr) : Decidable (Fits columns row) :=
  decidable_of_iff (row.length = columns.length ∧ ∀ v ∈ row, v.width = 1)
    ⟨fun h => ⟨h.1, h.2⟩, fun h => ⟨h.length, h.values⟩⟩

/-- The first fault of rows: each row is looked at as a whole before its values are, and these before the next row. -/
inductive FirstFault (columns : List Ident) : List (List Expr) → Error → Prop
  | row (row : List Expr) (rows : List (List Expr)) (length : row.length ≠ columns.length) :
      FirstFault columns (row :: rows) (rowMismatch columns.length row.length)
  | value (before : List Expr) (v : Expr) (after : List Expr) (rows : List (List Expr))
      (length : (before ++ v :: after).length = columns.length) (fine : ∀ x ∈ before, x.width = 1)
      (width : v.width ≠ 1) : FirstFault columns ((before ++ v :: after) :: rows) (widthMismatch v)
  | later (row : List Expr) (rows : List (List Expr)) (e : Error) (fits : Fits columns row)
      (fault : FirstFault columns rows e) : FirstFault columns (row :: rows) e

/-! ## Pairings -/

theorem suppliedValues_one (v : Expr) : suppliedValues v 1 = v.width := by
  unfold suppliedValues
  split <;> rfl

theorem check_eq_one (found : Nat) :
    Operator.eq.check 1 found = if found = 1 then .ok () else .error (.arity .eq "1" found) := by
  by_cases h : found = 1
  · rw [if_pos h, h]
    rfl
  · have haccepts : Operator.eq.arity.accepts 1 found = false := by simpa [Operator.arity, Arity.accepts] using h
    rw [if_neg h, Operator.check, haccepts]
    rfl

theorem pairing_one (c : Ident) (v : Expr) :
    pairing [c.print] 1 v .insertValues = if v.width = 1 then .ok (paired c v) else .error (widthMismatch v) := by
  unfold pairing
  simp only [suppliedValues_one, check_eq_one]
  by_cases h : v.width = 1
  · rw [if_pos h, if_pos h, h]
    rfl
  · rw [if_neg h, if_neg h]
    rfl

end Condition

open Condition

variable {columns : List Ident} {row : List Expr} {rows : List (List Expr)} {ns : List Node} {e : Error}

/-- A value in which no query is nested gives its pairing and nothing else. -/
theorem Expr.rowPairings_cons_of_free (c : Ident) (cs : List Ident) {v : Expr} (vs : List Expr) (h : v.nestedQueries = []) :
    Expr.rowPairings (c :: cs) (v :: vs) =
      if v.width = 1 then gather (.ok [paired c v]) (Expr.rowPairings cs vs) else .error (widthMismatch v) := by
  have hinner : v.innerConditions = .ok [] := by
    rw [v.innerConditions_eq, h]
    rfl
  rw [Expr.rowPairings, pairing_one, hinner]
  split <;> rfl

theorem Expr.rowPairings_eq_ok_iff (hlength : row.length = columns.length) (hfree : ∀ v ∈ row, v.nestedQueries = []) :
    Expr.rowPairings columns row = .ok ns ↔ (∀ v ∈ row, v.width = 1) ∧ ns = List.zipWith paired columns row := by
  induction columns generalizing row ns with
  | nil =>
    rw [List.length_eq_zero_iff.1 hlength]
    simp [Expr.rowPairings, eq_comm]
  | cons c cs ih =>
    obtain ⟨v, vs, rfl⟩ := List.exists_cons_of_length_eq_add_one hlength
    obtain ⟨hv, hvs⟩ := List.forall_mem_cons.1 hfree
    rw [Expr.rowPairings_cons_of_free c cs vs hv, List.forall_mem_cons]
    split
    · rename_i hwidth
      rw [gather_eq_ok]
      constructor
      · rintro ⟨_, ms, ⟨⟩, hms, rfl⟩
        obtain ⟨hall, rfl⟩ := (ih (Nat.succ.inj hlength) hvs).1 hms
        exact ⟨⟨hwidth, hall⟩, rfl⟩
      · rintro ⟨⟨-, hall⟩, rfl⟩
        exact ⟨_, _, rfl, (ih (Nat.succ.inj hlength) hvs).2 ⟨hall, rfl⟩, rfl⟩
    · rename_i hwidth
      exact ⟨nofun, fun h => absurd h.1.1 hwidth⟩

theorem Expr.rowPairings_eq_error_iff (hlength : row.length = columns.length) (hfree : ∀ v ∈ row, v.nestedQueries = []) :
    Expr.rowPairings columns row = .error e ↔
      ∃ before v after, row = before ++ v :: after ∧ (∀ x ∈ before, x.width = 1) ∧ v.width ≠ 1 ∧ e = widthMismatch v := by
  induction columns generalizing row with
  | nil =>
    rw [List.length_eq_zero_iff.1 hlength]
    simp [Expr.rowPairings]
  | cons c cs ih =>
    obtain ⟨v, vs, rfl⟩ := List.exists_cons_of_length_eq_add_one hlength
    obtain ⟨hv, hvs⟩ := List.forall_mem_cons.1 hfree
    rw [Expr.rowPairings_cons_of_free c cs vs hv]
    split
    · rename_i hwidth
      rw [gather_eq_error]
      constructor
      · rintro (hleft | ⟨_, -, h⟩)
        · cases hleft
        obtain ⟨before, x, after, rfl, hbefore, hx⟩ := (ih (Nat.succ.inj hlength) hvs).1 h
        exact ⟨v :: before, x, after, rfl, List.forall_mem_cons.2 ⟨hwidth, hbefore⟩, hx⟩
      · rintro ⟨before, x, after, hrow, hbefore, hx, rfl⟩
        cases before with
        | nil =>
          obtain ⟨rfl, -⟩ := List.cons.inj hrow
          exact absurd hwidth hx
        | cons w before =>
          obtain ⟨rfl, rfl⟩ := List.cons.inj hrow
          have hrest := (List.forall_mem_cons.1 hbefore).2
          exact .inr ⟨_, rfl, (ih (Nat.succ.inj hlength) hvs).2 ⟨before, x, after, rfl, hrest, hx, rfl⟩⟩
    · rename_i hwidth
      constructor
      · intro h
        cases h
        exact ⟨[], v, vs, rfl, List.forall_mem_nil _, hwidth, rfl⟩
      · rintro ⟨before, x, after, hrow, hbefore, -, rfl⟩
        cases before with
        | nil =>
          obtain ⟨rfl, -⟩ := List.cons.inj hrow
          rfl
        | cons w before =>
          obtain ⟨rfl, -⟩ := List.cons.inj hrow
          exact absurd ((List.forall_mem_cons.1 hbefore).1) hwidth

theorem Expr.rowsPairings_eq_ok_iff (hfree : ∀ row ∈ rows, ∀ v ∈ row, v.nestedQueries = []) :
    Expr.rowsPairings columns rows = .ok ns ↔
      (∀ row ∈ rows, Fits columns row) ∧ ns = rows.flatMap fun row => List.zipWith paired columns row := by
  induction rows generalizing ns with
  | nil => simp [Expr.rowsPairings, eq_comm]
  | cons row rows ih =>
    obtain ⟨hrow, hrows⟩ := List.forall_mem_cons.1 hfree
    rw [Expr.rowsPairings_cons, List.forall_mem_cons]
    by_cases hlength : row.length = columns.length
    · rw [if_neg (by simpa using hlength), gather_eq_ok]
      constructor
      · rintro ⟨ms, ms', hms, hms', rfl⟩
        obtain ⟨hwidths, rfl⟩ := (Expr.rowPairings_eq_ok_iff hlength hrow).1 hms
        obtain ⟨hfits, rfl⟩ := (ih hrows).1 hms'
        exact ⟨⟨⟨hlength, hwidths⟩, hfits⟩, rfl⟩
      · rintro ⟨⟨hfits, hall⟩, rfl⟩
        exact ⟨_, _, (Expr.rowPairings_eq_ok_iff hlength hrow).2 ⟨hfits.values, rfl⟩, (ih hrows).2 ⟨hall, rfl⟩, rfl⟩
    · rw [if_pos (by simpa using hlength)]
      constructor
      · intro h
        cases h
      · intro h
        exact absurd h.1.1.length hlength

theorem Expr.rowsPairings_eq_error_iff (hfree : ∀ row ∈ rows, ∀ v ∈ row, v.nestedQueries = []) :
    Expr.rowsPairings columns rows = .error e ↔ FirstFault columns rows e := by
  induction rows with
  | nil => exact ⟨nofun, nofun⟩
  | cons row rows ih =>
    obtain ⟨hrow, hrows⟩ := List.forall_mem_cons.1 hfree
    rw [Expr.rowsPairings_cons]
    by_cases hlength : row.length = columns.length
    · rw [if_neg (by simpa using hlength), gather_eq_error]
      constructor
      · rintro (h | ⟨ms, hms, h⟩)
        · obtain ⟨before, v, after, rfl, hbefore, hv, rfl⟩ := (Expr.rowPairings_eq_error_iff hlength hrow).1 h
          exact .value before v after rows hlength hbefore hv
        · have hwidths := ((Expr.rowPairings_eq_ok_iff hlength hrow).1 hms).1
          exact .later row rows e ⟨hlength, hwidths⟩ ((ih hrows).1 h)
      · intro h
        cases h with
        | row _ _ hne => exact absurd hlength hne
        | value before v after _ _ hbefore hv =>
          exact .inl ((Expr.rowPairings_eq_error_iff hlength hrow).2 ⟨before, v, after, rfl, hbefore, hv, rfl⟩)
        | later _ _ _ hfits hlater =>
          have hpaired := (Expr.rowPairings_eq_ok_iff hlength hrow).2 ⟨hfits.values, rfl⟩
          exact .inr ⟨_, hpaired, (ih hrows).2 hlater⟩
    · rw [if_pos (by simpa using hlength)]
      constructor
      · intro h
        cases h
        exact .row row rows hlength
      · intro h
        cases h with
        | row => rfl
        | value before v after _ heq => exact absurd heq hlength
        | later _ _ _ hfits => exact absurd hfits.length hlength

/-! ## Whole statements -/

/-- The rows come from a query or from SET, never from both. -/
def Insert.OneSource (i : Insert) : Prop := i.source = none ∨ i.assignments = []

namespace Grammar

theorem insertRows_source_or_assignments {d : Dialect} {r : Rules} {ts rest : List Lexeme} {rows : Rows}
    (h : insertRows d r ts = .ok (rows, rest)) : rows.source = none ∨ rows.assignments = [] := by
  unfold insertRows at h
  obtain ⟨defaults, _, -, h⟩ := bind_eq_ok h
  cases defaults with
  | true =>
    cases h
    exact .inl rfl
  | false =>
    obtain ⟨parenthesis, _, -, h⟩ := bind_eq_ok h
    obtain ⟨keyword, _, -, h⟩ := bind_eq_ok h
    obtain ⟨columns, _, h⟩ := of_either_bind h
    obtain ⟨partition, _, h⟩ := of_either_bind h
    obtain ⟨format, _, -, h⟩ := bind_eq_ok h
    obtain ⟨settings, _, -, h⟩ := bind_eq_ok h
    split at h
    · cases h
      exact .inl rfl
    · obtain ⟨set, _, -, h⟩ := bind_eq_ok h
      cases set with
      | true =>
        obtain ⟨sets, _, -, h⟩ := bind_eq_ok h
        cases h
        exact .inl rfl
      | false =>
        obtain ⟨q, _, -, h⟩ := bind_eq_ok h
        cases h
        exact .inr rfl

/-- Every INSERT that is read has one source. -/
theorem insert_oneSource {d : Dialect} {r : Rules} {verb : String} {ts rest : List Lexeme} {i : Insert}
    (h : insert d r verb ts = .ok (i, rest)) : i.OneSource := by
  unfold insert at h
  obtain ⟨conflict, _, -, h⟩ := bind_eq_ok h
  obtain ⟨lead, _, -, h⟩ := bind_eq_ok h
  obtain ⟨word, _, -, h⟩ := bind_eq_ok h
  obtain ⟨table, _, -, h⟩ := bind_eq_ok h
  obtain ⟨aliasName, _, h⟩ := of_either_bind h
  obtain ⟨rows, _, hrows, h⟩ := bind_eq_ok h
  obtain ⟨row, _, h⟩ := of_either_bind h
  obtain ⟨on, _, -, h⟩ := bind_eq_ok h
  obtain ⟨back, _, -, h⟩ := bind_eq_ok h
  cases h
  exact insertRows_source_or_assignments hrows

end Grammar

theorem getElem?_flatMap_of_length {α β : Type} {f : α → List β} {l : List α} {m r c : Nat} {a : α}
    (hf : ∀ a ∈ l, (f a).length = m) (hr : l[r]? = some a) (hc : c < m) : (l.flatMap f)[r * m + c]? = (f a)[c]? := by
  induction l generalizing r with
  | nil => cases hr
  | cons b l ih =>
    obtain ⟨hb, hl⟩ := List.forall_mem_cons.1 hf
    rw [List.flatMap_cons]
    cases r with
    | zero =>
      cases hr
      rw [Nat.zero_mul, Nat.zero_add, List.getElem?_append_left (by omega)]
    | succ r =>
      have hindex : (r + 1) * m + c - (f b).length = r * m + c := by
        rw [hb, Nat.succ_mul]
        omega
      rw [List.getElem?_append_right (by rw [hb, Nat.succ_mul]; omega), hindex, ih hl hr]

/-- The INSERT of rows of values into listed columns. -/
structure Insert.InsertsRows (i : Insert) (rows : List (List Expr)) : Prop where
  oneSource : i.OneSource
  columns : i.columns ≠ []
  source : ∃ recursive ctes explicitRow clauses, i.source = some ⟨recursive, ctes, .values explicitRow rows, clauses⟩

theorem Insert.InsertsRows.conditions_eq {i : Insert} (h : i.InsertsRows rows) :
    i.conditions = Expr.rowsPairings i.columns rows := by
  obtain ⟨_, _, _, _, columns, _, source, assignments, _, _, _⟩ := i
  obtain ⟨hone, hcolumns, _, _, _, _, rfl⟩ := h
  obtain rfl : assignments = [] := hone.resolve_left nofun
  rw [Insert.conditions, insertedPairings, Query.sourceConditionsOption, Query.sourceConditions,
    if_neg (by simpa using hcolumns)]
  exact nil_gather _

/-- Rows of values, none with a query in it, are inserted into `m` listed columns. The conditions are collected if and
only if every row fits; there are then `m` for each row, and the one at `r * m + c` pairs column `c` with its value in
row `r`. Otherwise there is an error, which is the first fault of the rows. -/
theorem insertedRows_paired_or_rejected {i : Insert} {rows : List (List Expr)} (hrows : i.InsertsRows rows)
    (hfree : ∀ row ∈ rows, ∀ v ∈ row, v.nestedQueries = []) :
    ((∃ ns, (Statement.insert i).conditions = .ok ns) ↔ ∀ row ∈ rows, Fits i.columns row) ∧
    (∀ ns, (Statement.insert i).conditions = .ok ns →
      ns.length = rows.length * i.columns.length ∧
      ∀ r row c column v, rows[r]? = some row → i.columns[c]? = some column → row[c]? = some v →
        ns[r * i.columns.length + c]? = some (paired column v)) ∧
    ((¬∀ row ∈ rows, Fits i.columns row) → ∃ e, (Statement.insert i).conditions = .error e) ∧
    ∀ e, (Statement.insert i).conditions = .error e ↔ FirstFault i.columns rows e := by
  have hconditions : (Statement.insert i).conditions = Expr.rowsPairings i.columns rows := hrows.conditions_eq
  rw [hconditions]
  refine ⟨?_, ?_, ?_, fun e => Expr.rowsPairings_eq_error_iff hfree⟩
  · constructor
    · rintro ⟨ns, hns⟩
      exact ((Expr.rowsPairings_eq_ok_iff hfree).1 hns).1
    · intro hfits
      exact ⟨_, (Expr.rowsPairings_eq_ok_iff hfree).2 ⟨hfits, rfl⟩⟩
  · intro ns hns
    obtain ⟨hfits, rfl⟩ := (Expr.rowsPairings_eq_ok_iff hfree).1 hns
    have hwidths : ∀ row ∈ rows, (List.zipWith paired i.columns row).length = i.columns.length := by
      intro row hrow
      rw [List.length_zipWith, (hfits row hrow).length, Nat.min_self]
    constructor
    · rw [List.length_flatMap, List.map_congr_left hwidths, List.map_const', List.sum_replicate_nat]
    · intro r row c column v hr hcolumn hv
      have hc : c < i.columns.length := (List.getElem?_eq_some_iff.1 hcolumn).1
      rw [getElem?_flatMap_of_length hwidths hr hc, List.getElem?_zipWith, hcolumn, hv]
  · intro hmisfit
    cases h : Expr.rowsPairings i.columns rows with
    | ok ns => exact absurd ((Expr.rowsPairings_eq_ok_iff hfree).1 h).1 hmisfit
    | error e => exact ⟨e, rfl⟩

/-- `INSERT INTO t (a, b) VALUES (1, ?), (2, 3)`, and the same with the rows `(1, 2), (3, (4, 5)), (6)`. -/
theorem insertedRows_two_columns :
    let name (c : Char) : Ident := ⟨String.singleton c, none⟩
    let number (n : String) : Expr := .value (.number n false)
    let mark : Expr := .value (.placeholder "?")
    let into (rows : List (List Expr)) : Insert :=
      ⟨none, ["INSERT", "INTO"], [name 't'], none, [name 'a', name 'b'], [],
        some ⟨false, [], .values false rows, []⟩, [], "", [], []⟩
    let fitting := [[number "1", mark], [number "2", number "3"]]
    let faulty := [[number "1", number "2"], [number "3", .tuple [number "4", number "5"]], [number "6"]]
    (∃ ns, (Statement.insert (into fitting)).conditions = .ok ns ∧ ns.length = 4 ∧
      ns[1]? = some (Condition.paired (name 'b') mark) ∧ ns[2]? = some (Condition.paired (name 'a') (number "2"))) ∧
    (Statement.insert (into faulty)).conditions = .error (.arity .eq "1" 2) := by
  intro name number mark into fitting faulty
  have hinto (rows : List (List Expr)) : (into rows).InsertsRows rows := ⟨.inr rfl, nofun, _, _, _, _, rfl⟩
  constructor
  · obtain ⟨hok, hpaired, -⟩ := insertedRows_paired_or_rejected (hinto fitting) (by decide)
    obtain ⟨ns, hns⟩ := hok.2 (by decide)
    obtain ⟨hlength, hat⟩ := hpaired ns hns
    exact ⟨ns, hns, hlength, hat 0 _ 1 _ _ rfl rfl rfl, hat 1 _ 0 _ _ rfl rfl rfl⟩
  · obtain ⟨-, -, -, herror⟩ := insertedRows_paired_or_rejected (hinto faulty) (by decide)
    refine (herror _).2 (.later _ _ _ (by decide) ?_)
    exact .value [number "3"] (.tuple [number "4", number "5"]) [] _ rfl (by decide) (by decide)

end SqlTemplate
