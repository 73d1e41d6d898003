/-
Which names are those of WITH queries. In SQL a WITH query is visible in the body of the query that declares it and in
the WITH queries declared after it, and in its own and in those before it only if the list is RECURSIVE. The walk of
`references` takes all names of a list as declared in the whole query, so it also leaves out a table that is read in a
WITH query of its own name, or of a name declared later.
-/
import SqlTemplate.Proofs.Table.Occurrences

namespace SqlTemplate

open Table (Scope References Reference Key Set Occurrence keyOf)

namespace Table

/-- A WITH list around a table: the keys of its queries, and the one of these that the table is in, or none if it is in
the body of the query. -/
structure Frame where
  recursive : Bool
  keys : List String
  within : Option Nat
deriving DecidableEq

/-- The keys that SQL lets a table in this place refer to. -/
def Frame.visible (f : Frame) : List String :=
  match f.within with
  | none => f.keys
  | some i => if f.recursive then f.keys else f.keys.take i

theorem Frame.visible_subset (f : Frame) : f.visible ⊆ f.keys := by
  unfold Frame.visible
  split
  · exact List.Subset.refl _
  · split
    · exact List.Subset.refl _
    · exact List.take_subset _ _

/-- All keys of WITH lists. -/
def declaredBy (fs : List Frame) : List String := fs.flatMap Frame.keys

theorem declaredBy_concat (fs : List Frame) (f : Frame) : declaredBy (fs ++ [f]) = declaredBy fs ++ f.keys := by
  simp [declaredBy]

/-- A table that the walk meets, and the WITH lists around it. -/
structure Mention where
  frames : List Frame
  name : String
  aliasName : Option String
deriving DecidableEq

namespace Mention

def key (m : Mention) : Key := keyOf m.name m.aliasName

/-- The name refers to a WITH query: it is not qualified, and such a query is visible. -/
def isCte (m : Mention) : Bool :=
  (Name.parts m.name).length == 1 && m.frames.any fun f => f.visible.contains (Name.objectKey m.name)

/-- The name is declared somewhere in the WITH lists around it. -/
def isDeclared (m : Mention) : Bool := Scope.declares ⟨true, declaredBy m.frames⟩ m.name

theorem isDeclared_of_isCte {m : Mention} (h : m.isCte = true) : m.isDeclared = true := by
  simp only [isCte, Bool.and_eq_true, List.any_eq_true, List.contains_iff_mem] at h
  obtain ⟨hlength, f, hf, hkey⟩ := h
  simp only [isDeclared, Scope.declares, declaredBy, hlength, Bool.true_and, List.contains_iff_mem, List.mem_flatMap]
  exact ⟨f, hf, f.visible_subset hkey⟩

def occurrence (m : Mention) : Occurrence := ⟨declaredBy m.frames, true, m.name, m.aliasName⟩

end Mention

def derivedMention (aliasName : Option TableAlias) : List Mention :=
  match aliasName with
  | some a => [⟨[], a.text, some a.text⟩]
  | none => []

end Table

open Table

/-! ## Mentions -/

mutual

def Expr.mentions (fs : List Frame) : Expr → List Mention
  | .ident _ => []
  | .compound _ => []
  | .value _ => []
  | .nested e => e.mentions fs
  | .tuple items => Expr.mentionsList fs items
  | .unary _ e => e.mentions fs
  | .binary l _ r => l.mentions fs ++ r.mentions fs
  | .test e _ _ => e.mentions fs
  | .distinctFrom l _ r => l.mentions fs ++ r.mentions fs
  | .inList e _ items => e.mentions fs ++ Expr.mentionsList fs items
  | .inSubquery e _ q => q.mentions fs ++ e.mentions fs
  | .between e _ low high => e.mentions fs ++ low.mentions fs ++ high.mentions fs
  | .pattern e _ _ _ p _ => e.mentions fs ++ p.mentions fs
  | .quantified l _ _ r => l.mentions fs ++ r.mentions fs
  | .cast _ e _ _ => e.mentions fs
  | .case operand branches otherwise =>
    Expr.mentionsOption fs operand ++ Branch.mentionsList fs branches ++ Expr.mentionsOption fs otherwise
  | .subquery q => q.mentions fs
  | .exists_ _ q => q.mentions fs
  | .call _ _ args _ => args.mentions fs
  | .form _ _ => []

def Expr.mentionsList (fs : List Frame) : List Expr → List Mention
  | [] => []
  | e :: es => e.mentions fs ++ Expr.mentionsList fs es

def Expr.mentionsOption (fs : List Frame) : Option Expr → List Mention
  | none => []
  | some e => e.mentions fs

def Expr.mentionsRows (fs : List Frame) : List (List Expr) → List Mention
  | [] => []
  | row :: rows => Expr.mentionsList fs row ++ Expr.mentionsRows fs rows

def Branch.mentions (fs : List Frame) : Branch → List Mention
  | ⟨condition, result⟩ => condition.mentions fs ++ result.mentions fs

def Branch.mentionsList (fs : List Frame) : List Branch → List Mention
  | [] => []
  | b :: bs => b.mentions fs ++ Branch.mentionsList fs bs

def Args.mentions (fs : List Frame) : Args → List Mention
  | .absent => []
  | .subquery q => q.mentions fs
  | .list _ items _ => Arg.mentionsList fs items

def Arg.mentions (fs : List Frame) : Arg → List Mention
  | .expr e => e.mentions fs
  | .named _ _ e => e.mentions fs
  | .star _ => []
  | .namedStar _ _ _ => []

def Arg.mentionsList (fs : List Frame) : List Arg → List Mention
  | [] => []
  | a :: as => a.mentions fs ++ Arg.mentionsList fs as

def Query.mentions (fs : List Frame) : Query → List Mention
  | ⟨recursive, ctes, body, _⟩ =>
    body.mentions (fs ++ [⟨recursive, ctes.map Cte.key, none⟩]) ++
      Cte.mentionsList fs recursive (ctes.map Cte.key) 0 ctes

def Query.mentionsOption (fs : List Frame) : Option Query → List Mention
  | none => []
  | some q => q.mentions fs

def Cte.mentions (fs : List Frame) : Cte → List Mention
  | ⟨_, _, q, _⟩ => q.mentions fs

/-- The WITH queries from the one at `i` on. -/
def Cte.mentionsList (fs : List Frame) (recursive : Bool) (keys : List String) (i : Nat) : List Cte → List Mention
  | [] => []
  | c :: cs => c.mentions (fs ++ [⟨recursive, keys, some i⟩]) ++ Cte.mentionsList fs recursive keys (i + 1) cs

def SetExpr.mentions (fs : List Frame) : SetExpr → List Mention
  | .select s => s.mentions fs
  | .query q => q.mentions fs
  | .operation l _ _ r => l.mentions fs ++ r.mentions fs
  | .values _ rows => Expr.mentionsRows fs rows
  | .table _ => []
  | .insert i => i.mentions fs
  | .update u => u.mentions fs
  | .delete d => d.mentions fs

def Select.mentions (fs : List Frame) : Select → List Mention
  | ⟨_, _, projection, _, tables, _, selection, _, having, _⟩ =>
    TableTree.mentionsList fs tables ++ SelectItem.mentionsList fs projection ++ Expr.mentionsOption fs selection ++
      Expr.mentionsOption fs having

def SelectItem.mentions (fs : List Frame) : SelectItem → List Mention
  | .expr e _ => e.mentions fs
  | .wildcard _ _ => []

def SelectItem.mentionsList (fs : List Frame) : List SelectItem → List Mention
  | [] => []
  | i :: is => i.mentions fs ++ SelectItem.mentionsList fs is

def TableTree.mentions (fs : List Frame) : TableTree → List Mention
  | ⟨relation, joins⟩ => relation.mentions fs ++ Join.mentionsList fs joins

def TableTree.mentionsList (fs : List Frame) : List TableTree → List Mention
  | [] => []
  | t :: ts => t.mentions fs ++ TableTree.mentionsList fs ts

def Factor.mentions (fs : List Frame) : Factor → List Mention
  | .table name aliasName _ _ => [⟨fs, name.print, aliasName.map TableAlias.text⟩]
  | .tableCall _ _ _ _ _ => []
  | .derived _ q aliasName => derivedMention aliasName ++ q.mentions fs
  | .nested t _ => t.mentions fs
  | .computed _ _ _ => []
  | .turned _ _ _ => []

def Join.mentions (fs : List Frame) : Join → List Mention
  | ⟨_, op, relation, _, condition, _⟩ =>
    relation.mentions fs ++ if op.hasCondition then Expr.mentionsOption fs condition else []

def Join.mentionsList (fs : List Frame) : List Join → List Mention
  | [] => []
  | j :: js => j.mentions fs ++ Join.mentionsList fs js

def Assignment.mentions (fs : List Frame) : Assignment → List Mention
  | ⟨_, v⟩ => v.mentions fs

def Assignment.mentionsList (fs : List Frame) : List Assignment → List Mention
  | [] => []
  | a :: as => a.mentions fs ++ Assignment.mentionsList fs as

/-- The table that rows are inserted into refers to no WITH query. -/
def Insert.mentions (fs : List Frame) : Insert → List Mention
  | ⟨_, _, table, aliasName, _, _, source, assignments, _, _, _⟩ =>
    [⟨[], ObjectName.print table, aliasName.map Ident.print⟩] ++ Query.mentionsOption fs source ++
      Assignment.mentionsList fs assignments

def Update.mentions (fs : List Frame) : Update → List Mention
  | ⟨_, table, sources, _, assignments, selection, _⟩ =>
    table.mentions fs ++ TableTree.mentionsList fs sources ++ Assignment.mentionsList fs assignments ++
      Expr.mentionsOption fs selection

def Delete.mentions (fs : List Frame) : Delete → List Mention
  | ⟨_, _, tables, usingTables, selection, _, _⟩ =>
    TableTree.mentionsList fs tables ++ TableTree.mentionsList fs usingTables ++ Expr.mentionsOption fs selection

end

/-- The tables that the walk meets in a statement. -/
def Statement.mentions : Statement → List Mention
  | .query q => q.mentions []
  | .insert i => i.mentions []
  | .update u => u.mentions []
  | .delete d => d.mentions []
  | .other => []

namespace Table

/-! ## Mentions are what the walk meets -/

/-- `ms` are the occurrences that are met. -/
def Traces (ms : List Mention) (os : List Occurrence) : Prop := ms.map Mention.occurrence = os.filter Occurrence.isMet

variable {ms ns ls ks : List Mention} {os ps qs us : List Occurrence}

theorem traces_nil : Traces [] [] := rfl

theorem filter_isMet_unmet (os : List Occurrence) : (unmet os).filter Occurrence.isMet = [] := by
  rw [List.filter_eq_nil_iff]
  intro o ho
  obtain ⟨_, -, rfl⟩ := List.mem_map.1 ho
  exact Bool.false_ne_true

theorem traces_unmet (os : List Occurrence) : Traces [] (unmet os) := (filter_isMet_unmet os).symm

theorem traces_named (fs : List Frame) (name : String) (aliasName : Option String) :
    Traces [⟨fs, name, aliasName⟩] [⟨declaredBy fs, true, name, aliasName⟩] := rfl

theorem traces_derived (aliasName : Option TableAlias) : Traces (derivedMention aliasName) (derivedOccurrence aliasName) := by
  cases aliasName <;> rfl

namespace Traces

theorem both (h : Traces ms os) (h' : Traces ns ps) : Traces (ms ++ ns) (os ++ ps) := by
  unfold Traces at h h' ⊢
  rw [List.map_append, h, h', List.filter_append]

theorem passing (h : Traces ms os) (ps : List Occurrence) : Traces ms (os ++ unmet ps) := by
  unfold Traces at h ⊢
  rw [h, List.filter_append, filter_isMet_unmet, List.append_nil]

end Traces

end Table

mutual

theorem Expr.mentions_traces (fs : List Frame) : ∀ e : Expr, Traces (e.mentions fs) (e.occurrences (declaredBy fs))
  | .ident _ => traces_nil
  | .compound _ => traces_nil
  | .value _ => traces_nil
  | .nested e => Expr.mentions_traces fs e
  | .tuple items => Expr.mentionsList_traces fs items
  | .unary _ e => Expr.mentions_traces fs e
  | .binary l _ r => .both (Expr.mentions_traces fs l) (Expr.mentions_traces fs r)
  | .test e _ _ => Expr.mentions_traces fs e
  | .distinctFrom l _ r => .both (Expr.mentions_traces fs l) (Expr.mentions_traces fs r)
  | .inList e _ items => .both (Expr.mentions_traces fs e) (Expr.mentionsList_traces fs items)
  | .inSubquery e _ q => .both (Query.mentions_traces fs q) (Expr.mentions_traces fs e)
  | .between e _ low high =>
    .both (.both (Expr.mentions_traces fs e) (Expr.mentions_traces fs low)) (Expr.mentions_traces fs high)
  | .pattern e _ _ _ p _ => .both (Expr.mentions_traces fs e) (Expr.mentions_traces fs p)
  | .quantified l _ _ r => .both (Expr.mentions_traces fs l) (Expr.mentions_traces fs r)
  | .cast _ e _ _ => Expr.mentions_traces fs e
  | .case operand branches otherwise =>
    .both (.both (Expr.mentionsOption_traces fs operand) (Branch.mentionsList_traces fs branches))
      (Expr.mentionsOption_traces fs otherwise)
  | .subquery q => Query.mentions_traces fs q
  | .exists_ _ q => Query.mentions_traces fs q
  | .call _ _ args _ => (Args.mentions_traces fs args).passing _
  | .form _ _ => traces_unmet _

theorem Expr.mentionsList_traces (fs : List Frame) :
    ∀ es : List Expr, Traces (Expr.mentionsList fs es) (Expr.occurrencesList (declaredBy fs) es)
  | [] => traces_nil
  | e :: es => .both (Expr.mentions_traces fs e) (Expr.mentionsList_traces fs es)

theorem Expr.mentionsOption_traces (fs : List Frame) :
    ∀ e : Option Expr, Traces (Expr.mentionsOption fs e) (Expr.occurrencesOption (declaredBy fs) e)
  | none => traces_nil
  | some e => Expr.mentions_traces fs e

theorem Expr.mentionsRows_traces (fs : List Frame) :
    ∀ rows : List (List Expr), Traces (Expr.mentionsRows fs rows) (Expr.occurrencesRows (declaredBy fs) rows)
  | [] => traces_nil
  | row :: rows => .both (Expr.mentionsList_traces fs row) (Expr.mentionsRows_traces fs rows)

theorem Branch.mentions_traces (fs : List Frame) : ∀ b : Branch, Traces (b.mentions fs) (b.occurrences (declaredBy fs))
  | ⟨condition, result⟩ => .both (Expr.mentions_traces fs condition) (Expr.mentions_traces fs result)

theorem Branch.mentionsList_traces (fs : List Frame) :
    ∀ bs : List Branch, Traces (Branch.mentionsList fs bs) (Branch.occurrencesList (declaredBy fs) bs)
  | [] => traces_nil
  | b :: bs => .both (Branch.mentions_traces fs b) (Branch.mentionsList_traces fs bs)

theorem Args.mentions_traces (fs : List Frame) : ∀ args : Args, Traces (args.mentions fs) (args.occurrences (declaredBy fs))
  | .absent => traces_nil
  | .subquery q => Query.mentions_traces fs q
  | .list _ items _ => (Arg.mentionsList_traces fs items).passing _

theorem Arg.mentions_traces (fs : List Frame) : ∀ a : Arg, Traces (a.mentions fs) (a.occurrences (declaredBy fs))
  | .expr e => Expr.mentions_traces fs e
  | .named _ _ e => (Expr.mentions_traces fs e).passing _
  | .star _ => traces_nil
  | .namedStar _ _ _ => traces_unmet _

theorem Arg.mentionsList_traces (fs : List Frame) :
    ∀ as : List Arg, Traces (Arg.mentionsList fs as) (Arg.occurrencesList (declaredBy fs) as)
  | [] => traces_nil
  | a :: as => .both (Arg.mentions_traces fs a) (Arg.mentionsList_traces fs as)

theorem Query.mentions_traces (fs : List Frame) : ∀ q : Query, Traces (q.mentions fs) (q.occurrences (declaredBy fs))
  | ⟨recursive, ctes, body, _⟩ => by
    -- whichever query of the list a table is in, the frame declares all keys, as the walk does
    have hbody := SetExpr.mentions_traces (fs ++ [⟨recursive, ctes.map Cte.key, none⟩]) body
    rw [declaredBy_concat] at hbody
    exact .passing (.both hbody (Cte.mentionsList_traces fs recursive (ctes.map Cte.key) 0 ctes)) _

theorem Query.mentionsOption_traces (fs : List Frame) :
    ∀ q : Option Query, Traces (Query.mentionsOption fs q) (Query.occurrencesOption (declaredBy fs) q)
  | none => traces_nil
  | some q => Query.mentions_traces fs q

theorem Cte.mentions_traces (fs : List Frame) : ∀ c : Cte, Traces (c.mentions fs) (c.occurrences (declaredBy fs))
  | ⟨_, _, q, _⟩ => Query.mentions_traces fs q

theorem Cte.mentionsList_traces (fs : List Frame) (recursive : Bool) (keys : List String) :
    ∀ (i : Nat) (cs : List Cte), Traces (Cte.mentionsList fs recursive keys i cs) (Cte.occurrencesList (declaredBy fs ++ keys) cs)
  | _, [] => traces_nil
  | i, c :: cs => by
    have hc := Cte.mentions_traces (fs ++ [⟨recursive, keys, some i⟩]) c
    rw [declaredBy_concat] at hc
    exact .both hc (Cte.mentionsList_traces fs recursive keys (i + 1) cs)

theorem SetExpr.mentions_traces (fs : List Frame) :
    ∀ b : SetExpr, Traces (b.mentions fs) (b.occurrences (declaredBy fs))
  | .select s => Select.mentions_traces fs s
  | .query q => Query.mentions_traces fs q
  | .operation l _ _ r => .both (SetExpr.mentions_traces fs l) (SetExpr.mentions_traces fs r)
  | .values _ rows => Expr.mentionsRows_traces fs rows
  | .table _ => rfl
  | .insert i => Insert.mentions_traces fs i
  | .update u => Update.mentions_traces fs u
  | .delete d => Delete.mentions_traces fs d

theorem Select.mentions_traces (fs : List Frame) : ∀ s : Select, Traces (s.mentions fs) (s.occurrences (declaredBy fs))
  | ⟨_, _, projection, _, tables, _, selection, _, having, _⟩ =>
    Traces.passing (.both (.both (.both (TableTree.mentionsList_traces fs tables)
      (SelectItem.mentionsList_traces fs projection)) (Expr.mentionsOption_traces fs selection))
      (Expr.mentionsOption_traces fs having)) _

theorem SelectItem.mentions_traces (fs : List Frame) :
    ∀ i : SelectItem, Traces (i.mentions fs) (i.occurrences (declaredBy fs))
  | .expr e _ => Expr.mentions_traces fs e
  | .wildcard _ _ => traces_unmet _

theorem SelectItem.mentionsList_traces (fs : List Frame) :
    ∀ is : List SelectItem, Traces (SelectItem.mentionsList fs is) (SelectItem.occurrencesList (declaredBy fs) is)
  | [] => traces_nil
  | i :: is => .both (SelectItem.mentions_traces fs i) (SelectItem.mentionsList_traces fs is)

theorem TableTree.mentions_traces (fs : List Frame) :
    ∀ t : TableTree, Traces (t.mentions fs) (t.occurrences (declaredBy fs))
  | ⟨relation, joins⟩ => .both (Factor.mentions_traces fs relation) (Join.mentionsList_traces fs joins)

theorem TableTree.mentionsList_traces (fs : List Frame) :
    ∀ ts : List TableTree, Traces (TableTree.mentionsList fs ts) (TableTree.occurrencesList (declaredBy fs) ts)
  | [] => traces_nil
  | t :: ts => .both (TableTree.mentions_traces fs t) (TableTree.mentionsList_traces fs ts)

theorem Factor.mentions_traces (fs : List Frame) : ∀ f : Factor, Traces (f.mentions fs) (f.occurrences (declaredBy fs))
  | .table name aliasName _ _ => (traces_named fs name.print (aliasName.map TableAlias.text)).passing _
  | .tableCall _ _ _ _ _ => traces_unmet _
  | .derived _ q aliasName => .both (traces_derived aliasName) (Query.mentions_traces fs q)
  | .nested t _ => TableTree.mentions_traces fs t
  | .computed _ _ _ => traces_unmet _
  | .turned _ _ _ => traces_unmet _

theorem Join.mentions_traces (fs : List Frame) : ∀ j : Join, Traces (j.mentions fs) (j.occurrences (declaredBy fs))
  | ⟨_, op, relation, _, condition, _⟩ => by
    refine .passing (.both (Factor.mentions_traces fs relation) ?_) _
    split
    · exact Expr.mentionsOption_traces fs condition
    · exact traces_unmet _

theorem Join.mentionsList_traces (fs : List Frame) :
    ∀ js : List Join, Traces (Join.mentionsList fs js) (Join.occurrencesList (declaredBy fs) js)
  | [] => traces_nil
  | j :: js => .both (Join.mentions_traces fs j) (Join.mentionsList_traces fs js)

theorem Assignment.mentions_traces (fs : List Frame) :
    ∀ a : Assignment, Traces (a.mentions fs) (a.occurrences (declaredBy fs))
  | ⟨_, v⟩ => Expr.mentions_traces fs v

theorem Assignment.mentionsList_traces (fs : List Frame) :
    ∀ as : List Assignment, Traces (Assignment.mentionsList fs as) (Assignment.occurrencesList (declaredBy fs) as)
  | [] => traces_nil
  | a :: as => .both (Assignment.mentions_traces fs a) (Assignment.mentionsList_traces fs as)

theorem Insert.mentions_traces (fs : List Frame) : ∀ i : Insert, Traces (i.mentions fs) (i.occurrences (declaredBy fs))
  | ⟨_, _, table, aliasName, _, _, source, assignments, _, _, _⟩ =>
    Traces.passing (.both (.both (traces_named [] (ObjectName.print table) (aliasName.map Ident.print))
      (Query.mentionsOption_traces fs source)) (Assignment.mentionsList_traces fs assignments)) _

theorem Update.mentions_traces (fs : List Frame) : ∀ u : Update, Traces (u.mentions fs) (u.occurrences (declaredBy fs))
  | ⟨_, table, sources, _, assignments, selection, _⟩ =>
    Traces.passing (.both (.both (.both (TableTree.mentions_traces fs table) (TableTree.mentionsList_traces fs sources))
      (Assignment.mentionsList_traces fs assignments)) (Expr.mentionsOption_traces fs selection)) _

theorem Delete.mentions_traces (fs : List Frame) : ∀ d : Delete, Traces (d.mentions fs) (d.occurrences (declaredBy fs))
  | ⟨_, _, tables, usingTables, selection, _, _⟩ =>
    Traces.passing (.both (.both (TableTree.mentionsList_traces fs tables) (TableTree.mentionsList_traces fs usingTables))
      (Expr.mentionsOption_traces fs selection)) _

end

/-- The tables that the walk meets are the occurrences that are met. -/
theorem Statement.mentions_traces (st : Statement) : Traces st.mentions st.occurrences := by
  cases st with
  | query q => exact Query.mentions_traces [] q
  | insert i => exact Insert.mentions_traces [] i
  | update u => exact Update.mentions_traces [] u
  | delete d => exact Delete.mentions_traces [] d
  | other => exact traces_nil

namespace Table

/-! ## Hidden names -/

/-- The tables that the walk reports are those that it meets, apart from declared names. -/
theorem map_key_references {st : Statement} {rs : List Reference} (h : st.references = .ok rs) :
    rs.map Reference.key = (st.mentions.filter fun m => !m.isDeclared).map Mention.key := by
  have hfilter : st.occurrences.filter Occurrence.isReported =
      (st.mentions.filter fun m => !m.isDeclared).map Mention.occurrence := by
    have hreported : Occurrence.isReported = fun o => (!o.isDeclared) && o.isMet := by
      funext o
      exact Bool.and_comm _ _
    rw [hreported, ← List.filter_filter, ← Statement.mentions_traces st, List.filter_map]
    rfl
  rw [Statement.references_reports st rs h, hfilter, List.map_map]
  rfl

/-- Among the tables that the walk meets, the set has all but the names of WITH queries. -/
def Set.Scoped (s : Set) (st : Statement) : Prop :=
  ∀ k, s.contains k = true ↔ ∃ m ∈ st.mentions, m.isCte = false ∧ m.key = k

/-- Of the tables that the walk meets, those with declared names are left out. These are the names of WITH queries if and
only if each table with a declared name that refers to no WITH query is also met where its name is not declared, under
the same alias. -/
theorem scoped_tables_iff (st : Statement) (tables : Set) (h : st.tables = .ok tables) :
    (∃ rs, st.references = .ok rs ∧ tables = .ofList rs ∧
      rs.map Reference.key = (st.mentions.filter fun m => !m.isDeclared).map Mention.key) ∧
    (tables.Scoped st ↔ ∀ m ∈ st.mentions, m.isDeclared = true → m.isCte = false →
      ∃ n ∈ st.mentions, n.isDeclared = false ∧ n.key = m.key) := by
  obtain ⟨rs, hrs, ht⟩ := bind_eq_ok.1 h
  cases ht
  have hkeys := map_key_references hrs
  have hcontains : ∀ k, (Set.ofList rs).contains k = true ↔ ∃ m ∈ st.mentions, m.isDeclared = false ∧ m.key = k := by
    intro k
    have hmem : (∃ r ∈ rs, r.key = k) ↔ k ∈ rs.map Reference.key := by simp
    rw [Set.contains_ofList, hmem, hkeys]
    simp [and_assoc]
  refine ⟨⟨rs, hrs, rfl, hkeys⟩, fun hscoped m hm _ hcte => ?_, fun hall k => ?_⟩
  · exact (hcontains m.key).1 ((hscoped m.key).2 ⟨m, hm, hcte, rfl⟩)
  · rw [hcontains]
    constructor
    · rintro ⟨m, hm, hd, hk⟩
      refine ⟨m, hm, ?_, hk⟩
      by_contra hcte
      rw [m.isDeclared_of_isCte (by simpa using hcte)] at hd
      cases hd
    · rintro ⟨m, hm, hcte, rfl⟩
      cases hd : m.isDeclared with
      | false => exact ⟨m, hm, hd, rfl⟩
      | true => exact hall m hm hd hcte

/-- `WITH t AS (SELECT * FROM t) SELECT * FROM t`, or `WITH RECURSIVE`. -/
def selfNamed (recursive : Bool) : Statement :=
  let body : SetExpr :=
    .select ⟨false, [], [.wildcard none []], none, [⟨.table [⟨"t", none⟩] none ⟨[], false, []⟩ [], []⟩], [], none, [], none, []⟩
  .query ⟨recursive, [⟨⟨⟨"t", none⟩, []⟩, none, ⟨false, [], body, []⟩, none⟩], body, []⟩

/-- All that is read is the WITH query. -/
theorem scoped_tables_recursive : (selfNamed true).tables = .ok .empty ∧ Set.empty.Scoped (selfNamed true) := by
  have ht : (selfNamed true).tables = .ok .empty := eq_ok_of_toOption (by decide +kernel)
  exact ⟨ht, (scoped_tables_iff (selfNamed true) .empty ht).2.2 (by decide +kernel)⟩

/-- The table that the WITH query reads is left out. -/
theorem not_scoped_tables_selfNamed : (selfNamed false).tables = .ok .empty ∧ ¬Set.empty.Scoped (selfNamed false) := by
  refine ⟨eq_ok_of_toOption (by decide +kernel), fun hscoped => ?_⟩
  have htable : ∃ m ∈ (selfNamed false).mentions, m.isCte = false ∧ m.key = ("t", none) := by decide +kernel
  exact absurd ((hscoped ("t", none)).2 htable) (by decide +kernel)

end Table

end SqlTemplate
