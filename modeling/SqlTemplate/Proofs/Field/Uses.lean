/-
The fields of a statement as the uses that it makes of columns. A use is a column that is selected, written to or
compared, by the parts of its name, or a star. Each use gives one field, except those that are passed by, which give
none: what an INSERT or UPDATE in parentheses or after a WITH list writes to, what stands where the walks through an
expression do not come, and what stands in the options of a star. No field is listed twice, although repetitions are
dropped three times on the way: in a leaf, in a group and in the whole. A field has the qualifier and the column that
are written if and only if the text of the name is cut where its last part begins.
-/
import SqlTemplate.Field
import SqlTemplate.Proofs.Condition.Summary
import SqlTemplate.Proofs.Name.Identifier
import SqlTemplate.Proofs.Tree.Walk

namespace SqlTemplate

open Condition (Node Predicate)
open SqlTemplate.Field (Role)

/-! ## Uses -/

namespace Field

/-- What is used: a column, by its name, or all columns, of one table or of all. -/
inductive Item where
  | column (role : Role) (name : ObjectName)
  | star (table : Option ObjectName)

namespace Item

/-- The field of an item, for which the text of the name is taken apart. -/
def field : Item → Field
  | .column role name => ofReference role name.print
  | .star table => ⟨"*", table.map ObjectName.print, .select⟩

/-- The field with the parts that are written, of which the last is the column. -/
def written : Item → Field
  | .column role name => ⟨name.last, Name.qualifier (name.dropLast.map Ident.print), role⟩
  | .star table => ⟨"*", table.map ObjectName.print, .select⟩

end Item

/-- An item as it is used in a statement, and whether the use is one that gives a field. -/
structure Use where
  isMet : Bool
  item : Item

/-- The columns among the contents of expressions. -/
def columnUses (role : Role) (cs : List Walk.Content) : List Use :=
  cs.filterMap fun c => c.item.name?.map fun name => ⟨c.isMet, .column role name⟩

end Field

open SqlTemplate.Field (Item Use columnUses)

/-- The columns that an expression refers to, wherever they stand in it. -/
def Expr.uses (role : Role) (e : Expr) : List Use := columnUses role e.contents

def SelectItem.uses : SelectItem → List Use
  | .expr e _ => e.uses .select
  | .wildcard table options =>
    ⟨true, .star table⟩ :: columnUses .select (Walk.missed (Clause.contentsList options))

def Target.names : Target → List ObjectName
  | .column name => [name]
  | .row names => names

def targetItems (role : Role) (assignments : List Assignment) : List Item :=
  assignments.flatMap fun a => a.target.names.map (.column role)

/-- The columns that an INSERT writes to. -/
def Insert.targets (i : Insert) : List Item :=
  (i.columns.map fun c => .column .insert [c]) ++ targetItems .insert i.assignments

def Update.targets (u : Update) : List Item := targetItems .updateSet u.assignments

mutual

/-- What each branch of a body selects or writes to. A write is passed by where it is the body of a query, as it is in
parentheses and after a WITH list. -/
def SetExpr.uses : SetExpr → List Use
  | .select s => s.projection.flatMap SelectItem.uses
  | .query q => q.uses
  | .operation l _ _ r => l.uses ++ r.uses
  | .values _ _ => []
  | .table _ => []
  | .insert i => i.targets.map (.mk false)
  | .update u => u.targets.map (.mk false)
  | .delete _ => []

def Query.uses : Query → List Use
  | ⟨_, _, body, _⟩ => body.uses

end

/-- What a statement selects or writes to. -/
def Statement.targetUses : Statement → List Use
  | .query q => q.uses
  | .insert i => i.targets.map (.mk true)
  | .update u => u.targets.map (.mk true)
  | .delete _ => []
  | .other => []

/-- What a statement selects or writes to, and then the columns of each predicate that makes a condition. -/
def Statement.uses (st : Statement) : List Use :=
  st.targetUses ++ (st.predicates.filter Predicate.isMet).flatMap fun p => p.expr.uses .condition

namespace Field

/-- The fields of the uses that give one. -/
def reported (us : List Use) : List Field := (us.filter Use.isMet).map fun u => u.item.field

/-- The fields of all uses as they are written. -/
def written (us : List Use) : List Field := us.map fun u => u.item.written

theorem reported_append (us vs : List Use) : reported (us ++ vs) = reported us ++ reported vs := by
  rw [reported, List.filter_append, List.map_append]
  rfl

theorem reported_flatMap {α : Type} (xs : List α) (f : α → List Use) :
    reported (xs.flatMap f) = xs.flatMap fun x => reported (f x) := by
  induction xs with
  | nil => rfl
  | cons x xs ih => rw [List.flatMap_cons, List.flatMap_cons, reported_append, ih]

theorem reported_met (items : List Item) : reported (items.map (.mk true)) = items.map Item.field := by
  induction items with
  | nil => rfl
  | cons x xs ih => exact congrArg (x.field :: ·) ih

theorem reported_unmet (items : List Item) : reported (items.map (.mk false)) = [] := by
  induction items with
  | nil => rfl
  | cons x xs ih => exact ih

end Field

open SqlTemplate.Field (reported written)

/-! ## Fields of uses -/

/-- Of the columns among contents, those give a field that the walks come to. -/
theorem Field.reported_columnUses (role : Role) (cs : List Walk.Content) :
    reported (columnUses role cs) = ((Walk.met cs).filterMap Walk.Item.column?).map (Field.ofReference role) := by
  induction cs with
  | nil => rfl
  | cons c cs ih =>
    obtain ⟨item, isMet⟩ := c
    -- a column that is met gives one field; all other contents give none
    cases item <;> cases isMet <;> first | exact ih | exact congrArg (_ :: ·) ih

theorem Expr.reported_uses (role : Role) (e : Expr) :
    reported (e.uses role) = e.referencedColumns.map (Field.ofReference role) := by
  rw [uses, Field.reported_columnUses, Walk.referencedColumns_eq]

theorem SelectItem.reported_uses (i : SelectItem) : reported i.uses = i.fields := by
  cases i with
  | expr e aliasName => exact e.reported_uses .select
  | wildcard table options =>
    show Item.field (.star table) :: reported (columnUses .select (Walk.missed _)) = _
    rw [Field.reported_columnUses, Walk.met_missed]
    rfl

mutual

theorem SetExpr.reported_uses : ∀ b : SetExpr, reported b.uses = b.fields
  | .select s => by
    rw [SetExpr.uses, SetExpr.fields, Field.reported_flatMap]
    exact List.flatMap_congr fun i _ => i.reported_uses
  | .query q => q.reported_uses
  | .operation l _ _ r => by
    rw [SetExpr.uses, SetExpr.fields, Field.reported_append, l.reported_uses, r.reported_uses]
  | .values _ _ => rfl
  | .table _ => rfl
  | .insert _ => Field.reported_unmet _
  | .update _ => Field.reported_unmet _
  | .delete _ => rfl

theorem Query.reported_uses : ∀ q : Query, reported q.uses = q.fields
  | ⟨_, _, body, _⟩ => body.reported_uses

end

theorem map_field_targetItems (role : Role) (assignments : List Assignment) :
    (targetItems role assignments).map Item.field = targetFields role assignments := by
  rw [targetItems, targetFields, List.map_flatMap]
  refine List.flatMap_congr fun a _ => ?_
  have hcolumns : a.target.names.map ObjectName.print = a.target.columns := by cases a.target <;> rfl
  rw [← hcolumns, List.map_map, List.map_map]
  rfl

theorem Statement.reported_targetUses (st : Statement) : reported st.targetUses = st.targetFields := by
  cases st with
  | query q => exact q.reported_uses
  | insert i =>
    rw [Statement.targetUses, Statement.targetFields, Field.reported_met, Insert.targets, List.map_append,
      map_field_targetItems, List.map_map]
    rfl
  | update u => exact (Field.reported_met _).trans (map_field_targetItems .updateSet u.assignments)
  | delete d => rfl
  | other => rfl

theorem Field.ofCondition_eq (n : Node) :
    ofCondition n = if n.isPredicate then n.summary.columns.map (ofReference .condition) else [] := by
  unfold ofCondition Condition.Node.isPredicate
  cases n.summary.position <;> rfl

/-- The fields of conditions are those of the predicates that the conditions are made of. -/
theorem flatMap_ofCondition {ps : List Predicate} {ns : List Node}
    (h : List.Forall₂ Predicate.Makes ps (ns.filter Node.isPredicate)) :
    ns.flatMap Field.ofCondition = ps.flatMap fun p => p.expr.distinctColumns.map (Field.ofReference .condition) := by
  induction ns generalizing ps with
  | nil =>
    cases h
    rfl
  | cons n ns ih =>
    rw [List.flatMap_cons, Field.ofCondition_eq]
    by_cases hn : n.isPredicate = true
    · rw [List.filter_cons_of_pos hn] at h
      obtain ⟨p, ps, hmakes, hrest, rfl⟩ := List.forall₂_cons_right_iff.1 h
      rw [if_pos hn, (Condition.sums_of_classify hmakes.1).columns, ih hrest, List.flatMap_cons]
    · rw [List.filter_cons_of_neg hn] at h
      rw [if_neg hn, ih h, List.nil_append]

/-- The fields are those of the uses that give one, each listed where it first occurs. -/
theorem Statement.fields_eq_eraseDups {st : Statement} {fs : List Field} (h : st.fields = .ok fs) :
    fs = (reported st.uses).eraseDups := by
  obtain ⟨ns, hns, hfs⟩ := bind_eq_ok.1 h
  cases hfs
  have hmakes := st.conditions_gives ns hns
  rw [flatMap_ofCondition hmakes, ← st.reported_targetUses]
  simp only [Expr.distinctColumns]
  rw [Text.distinct_append_flatMap, Text.distinct_eq_eraseDups, Statement.uses, Field.reported_append, Field.reported_flatMap]
  simp only [Expr.reported_uses]

/-! ## Fields as they are written -/

namespace Field.Item

def Whole : Item → Prop
  | .column _ name => name.Whole
  | .star _ => True

/-- The qualifier and the column are the written ones only for whole names. -/
theorem field_eq_written_iff (x : Item) : x.field = x.written ↔ x.Whole := by
  cases x with
  | column role name =>
    have hsplit := Name.splitColumn_eq_iff name.print_eq_join
    rw [Whole, ObjectName.Whole, ← hsplit, field, written, ofReference]
    constructor
    · intro h
      injection h with hcolumn hqualifier
      exact Prod.ext hqualifier hcolumn
    · intro h
      rw [h]
  | star table => exact iff_of_true rfl trivial

/-- A star, or a column whose name consists of identifiers that a cut knows. -/
def Regular : Item → Prop
  | .column _ name => ∀ i ∈ name, i.Regular
  | .star _ => True

theorem Regular.written_eq {x : Item} (h : x.Regular) : x.field = x.written := by
  rw [field_eq_written_iff]
  cases x with
  | column role name => exact ObjectName.whole_of_regular h
  | star table => trivial

end Field.Item

namespace Field

/-- Of regular names, the fields that are reported are those that are written, as far as the uses give one. -/
theorem reported_of_regular {us : List Use} (h : ∀ u ∈ us, u.item.Regular) : reported us = written (us.filter Use.isMet) :=
  List.map_congr_left fun u hu => (h u (List.mem_filter.1 hu).1).written_eq

theorem mem_written {us : List Use} {f : Field} : f ∈ written us ↔ ∃ u ∈ us, u.item.written = f := List.mem_map

end Field

/-- The fields are those of the uses that give one, in order and each listed once. A field has the written qualifier and
column if and only if the name is whole, as it is if it consists of identifiers that a cut knows. If all names are such,
then the fields are those that are written, each where it first occurs, unless a use is passed by; and then none is
missing if and only if each one that is passed by is also written where it is not. -/
theorem fields_of_uses {st : Statement} {fs : List Field} (h : st.fields = .ok fs) :
    fs = (reported st.uses).eraseDups ∧
    (∀ u ∈ st.uses, u.item.field = u.item.written ↔ u.item.Whole) ∧
    ((∀ u ∈ st.uses, u.item.Regular) →
      ((∀ u ∈ st.uses, u.isMet = true) → fs = (written st.uses).eraseDups) ∧
      ((∀ f ∈ written st.uses, f ∈ fs) ↔
        ∀ u ∈ st.uses, u.isMet = false → ∃ v ∈ st.uses, v.isMet = true ∧ v.item.written = u.item.written)) := by
  have hfields := Statement.fields_eq_eraseDups h
  refine ⟨hfields, fun u _ => u.item.field_eq_written_iff, fun hregular => ?_⟩
  rw [Field.reported_of_regular hregular] at hfields
  refine ⟨fun hmet => ?_, ?_⟩
  · rwa [List.filter_eq_self.2 hmet] at hfields
  · -- a field is listed if some use gives it, wherever else it is written
    have hmem : ∀ f, f ∈ fs ↔ ∃ v ∈ st.uses, v.isMet = true ∧ v.item.written = f := by
      intro f
      rw [hfields, List.mem_eraseDups, Field.mem_written]
      simp [and_assoc]
    constructor
    · intro hall u hu _
      exact (hmem _).1 (hall _ (Field.mem_written.2 ⟨u, hu, rfl⟩))
    · intro hall f hf
      obtain ⟨u, hu, rfl⟩ := Field.mem_written.1 hf
      rw [hmem]
      cases hm : u.isMet with
      | true => exact ⟨u, hu, hm, rfl⟩
      | false => exact hall u hu hm

/-- A dot between backticks divides nothing: `u` is the qualifier, where the column is selected and where it is compared. -/
theorem fields_of_uses_backticks :
    let dotted : ObjectName := [⟨"u", none⟩, ⟨"a.b", some '\x60'⟩]
    let c : Expr := .ident ⟨"c", none⟩
    let selection : Expr := .binary (.binary c .eq (.value (.number "1" false))) .or (.binary c .eq (.compound dotted))
    let st : Statement := .query ⟨false, [], .select ⟨false, [], [.expr (.compound dotted) none], none,
      [⟨.table [⟨"u", none⟩] none ⟨[], false, []⟩ [], []⟩], [], some selection, [], none, []⟩, []⟩
    st.fields = .ok [⟨"\x60a.b\x60", some "u", .select⟩, ⟨"c", none, .condition⟩, ⟨"\x60a.b\x60", some "u", .condition⟩] := by
  intro dotted c selection st
  obtain ⟨fs, hfs⟩ := exists_eq_ok (x := st.fields) (by decide +kernel)
  have huses : st.uses = [⟨true, .column .select dotted⟩, ⟨true, .column .condition [⟨"c", none⟩]⟩,
      ⟨true, .column .condition [⟨"c", none⟩]⟩, ⟨true, .column .condition dotted⟩] := rfl
  have hregular : ∀ u ∈ st.uses, u.item.Regular := by
    have hc : Ident.Regular ⟨"c", none⟩ := .plain "c" (by decide)
    have hdotted : ∀ i ∈ dotted, i.Regular := by
      refine List.forall_mem_cons.2 ⟨.plain "u" (by decide), List.forall_mem_singleton.2 ?_⟩
      exact .quoted .back (by decide) "a.b" (by decide)
    rw [huses]
    simpa [Item.Regular] using ⟨hdotted, hc, hdotted⟩
  have hmet : ∀ u ∈ st.uses, u.isMet = true := by simp [huses]
  rw [hfs, ((fields_of_uses hfs).2.2 hregular).1 hmet, huses]
  decide +kernel

/-- A dot between single quotes divides the name: what is written as the one column of `INSERT INTO t ('a.b') VALUES (1)`
is reported as the column `b'` of `'a`. And an UPDATE in parentheses writes to no column: of
`(UPDATE t SET a = 1 WHERE b = 2)` only `b` is reported. -/
theorem not_fields_written :
    (let st : Statement := .insert ⟨none, ["INSERT", "INTO"], [⟨"t", none⟩], none, [⟨"a.b", some '\x27'⟩], [],
        some ⟨false, [], .values false [[.value (.number "1" false)]], []⟩, [], "", [], []⟩
      let found : List Field := [⟨"b\x27", some "\x27a", .insert⟩]
      st.fields = .ok found ∧ (written st.uses).eraseDups = [⟨"\x27a.b\x27", none, .insert⟩] ∧
        found ≠ (written st.uses).eraseDups) ∧
    (let number (text : String) : Expr := .value (.number text false)
      let update : Update := ⟨none, ⟨.table [⟨"t", none⟩] none ⟨[], false, []⟩ [], []⟩, [], false,
        [⟨.column [⟨"a", none⟩], number "1"⟩], some (.binary (.ident ⟨"b", none⟩) .eq (number "2")), []⟩
      let st : Statement := .query ⟨false, [], .query ⟨false, [], .update update, []⟩, []⟩
      let found : List Field := [⟨"b", none, .condition⟩]
      st.fields = .ok found ∧ (written st.uses).eraseDups = [⟨"a", none, .updateSet⟩, ⟨"b", none, .condition⟩] ∧
        found ≠ (written st.uses).eraseDups) := by
  constructor
  · intro st found
    obtain ⟨fs, hfs⟩ := exists_eq_ok (x := st.fields) (by decide +kernel)
    have huses : st.uses = [⟨true, .column .insert [⟨"a.b", some '\x27'⟩]⟩] := rfl
    have hwritten : (written st.uses).eraseDups = [⟨"\x27a.b\x27", none, .insert⟩] := by
      rw [huses]
      decide +kernel
    refine ⟨?_, hwritten, by rw [hwritten]; decide⟩
    rw [hfs, Statement.fields_eq_eraseDups hfs, huses]
    decide +kernel
  · intro number update st found
    obtain ⟨fs, hfs⟩ := exists_eq_ok (x := st.fields) (by decide +kernel)
    have huses : st.uses = [⟨false, .column .updateSet [⟨"a", none⟩]⟩, ⟨true, .column .condition [⟨"b", none⟩]⟩] := rfl
    have hwritten : (written st.uses).eraseDups = [⟨"a", none, .updateSet⟩, ⟨"b", none, .condition⟩] := by
      rw [huses]
      decide +kernel
    refine ⟨?_, hwritten, by rw [hwritten]; decide⟩
    rw [hfs, Statement.fields_eq_eraseDups hfs, huses]
    decide +kernel

end SqlTemplate
