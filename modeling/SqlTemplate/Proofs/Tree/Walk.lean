/-
All columns, placeholders and queries that are written in an expression outside the queries in it, and which of them
the walks come to. The walks know the operands of an expression and nothing else: they come to no special form, to no
clause of a call, to none of the parameters of what is called, to no expression before the value of an argument, and
to no literal after ESCAPE or FORMAT.
-/
import SqlTemplate.Tree.Walk
import Mathlib.Data.List.Perm.Subperm

namespace SqlTemplate

namespace Walk

/-- What the walks look for: columns that are referred to, placeholders, and queries. -/
inductive Item where
  | column (name : ObjectName)
  | placeholder
  | query (q : Query)

namespace Item

def name? : Item → Option ObjectName
  | .column name => some name
  | _ => none

def column? (i : Item) : Option String := i.name?.map ObjectName.print

def isPlaceholder : Item → Bool
  | .placeholder => true
  | _ => false

def query? : Item → Option Query
  | .query q => some q
  | _ => none

theorem column?_of_isPlaceholder {i : Item} (h : i.isPlaceholder = true) : i.column? = none := by
  cases i <;> first | rfl | cases h

theorem column?_of_query? {i : Item} (h : i.query?.isSome = true) : i.column? = none := by
  cases i <;> first | rfl | cases h

end Item

/-- An item as it is written in an expression, and whether it stands where the walks come. -/
structure Content where
  item : Item
  isMet : Bool

/-- Items in a part of an expression that the walks pass by. -/
def missed (cs : List Content) : List Content := cs.map fun c => { c with isMet := false }

/-- The items that the walks come to. -/
def met (cs : List Content) : List Item := (cs.filter Content.isMet).map Content.item

end Walk

open Walk

/-! ## Contents -/

def Value.contents : Value → List Content
  | .placeholder _ => [⟨.placeholder, true⟩]
  | _ => []

/-- What a form holds beside its argument expressions. -/
def Form.contents : Form → List Content
  | .typed _ v => v.contents
  | .introduced _ v => v.contents
  | .matchAgainst columns v _ => columns.map (fun name => ⟨.column name, true⟩) ++ v.contents
  | _ => []

/-- The arguments of one step of an access chain, by whether a name among them is that of a field. -/
def Access.labels : Access → List Bool
  | .field => [true]
  | .index => [false]
  | .slice lower upper stride => List.replicate (lower.toNat + upper.toNat + stride.toNat) false

/-- The arguments of a form, by whether a name among them is that of a field; all after the last are no fields. -/
def Form.labels : Form → List Bool
  | .access steps => false :: steps.flatMap Access.labels
  | _ => []

def Expr.isName : Expr → Bool
  | .ident _ => true
  | _ => false

/-- Whether an argument is called by the name before the operator; before other operators stands a key, which is a
value like any other. -/
def namesArgument (op : String) (name : Expr) : Bool := (op == "=>" || op == ":=") && name.isName

mutual

/-- The columns, placeholders and queries in an expression, outside the queries in it. -/
def Expr.contents : Expr → List Content
  | .ident id => [⟨.column [id], true⟩]
  | .compound parts => [⟨.column parts, true⟩]
  | .value v => v.contents
  | .nested e => e.contents
  | .tuple items => Expr.contentsList [] items
  | .unary _ e => e.contents
  | .binary l _ r => l.contents ++ r.contents
  | .test e _ _ => e.contents
  | .distinctFrom l _ r => l.contents ++ r.contents
  | .inList e _ items => e.contents ++ Expr.contentsList [] items
  | .inSubquery e _ q => ⟨.query q, true⟩ :: e.contents
  | .between e _ low high => e.contents ++ low.contents ++ high.contents
  | .pattern e _ _ _ p escape => e.contents ++ p.contents ++ missed (escape.toList.flatMap Value.contents)
  | .quantified l _ _ r => l.contents ++ r.contents
  | .cast _ e _ format => e.contents ++ missed (format.flatMap Value.contents)
  | .case operand branches otherwise =>
    Expr.contentsOption operand ++ Branch.contentsList branches ++ Expr.contentsOption otherwise
  | .subquery q => [⟨.query q, true⟩]
  | .exists_ _ q => [⟨.query q, true⟩]
  | .call _ parameters args clauses => args.contents ++ missed (parameters.contents ++ Clause.contentsList clauses)
  | .form f args => missed (f.contents ++ Expr.contentsList f.labels args)

/-- The contents of a list; a name that is labelled as that of a field is no column. -/
def Expr.contentsList (labels : List Bool) : List Expr → List Content
  | [] => []
  | e :: es =>
    (if labels.head? == some true && e.isName then [] else e.contents) ++ Expr.contentsList labels.tail es

def Expr.contentsOption : Option Expr → List Content
  | none => []
  | some e => e.contents

def Branch.contents : Branch → List Content
  | ⟨condition, result⟩ => condition.contents ++ result.contents

def Branch.contentsList : List Branch → List Content
  | [] => []
  | b :: bs => b.contents ++ Branch.contentsList bs

def Args.contents : Args → List Content
  | .absent => []
  | .subquery q => [⟨.query q, true⟩]
  | .list _ items clauses => Arg.contentsList items ++ missed (Clause.contentsList clauses)

def Arg.contents : Arg → List Content
  | .expr e => e.contents
  | .named name op e => e.contents ++ missed (if namesArgument op name then [] else name.contents)
  | .star _ => []
  | .namedStar name op _ => missed (if namesArgument op name then [] else name.contents)

def Arg.contentsList : List Arg → List Content
  | [] => []
  | a :: as => a.contents ++ Arg.contentsList as

def Clause.contents : Clause → List Content
  | ⟨_, args⟩ => Expr.contentsList [] args

def Clause.contentsList : List Clause → List Content
  | [] => []
  | c :: cs => c.contents ++ Clause.contentsList cs

end

/-! ## What the walks come to -/

/-- The name of a column that an expression is, with nothing around it. -/
def Expr.name? : Expr → Option ObjectName
  | .ident id => some [id]
  | .compound parts => some parts
  | _ => none

theorem Expr.map_print_name (e : Expr) : e.name?.map ObjectName.print = e.plainColumn? := by
  cases e <;> rfl

/-- What the walks take at one expression, before they go on to its operands. -/
def Expr.items (e : Expr) : List Item :=
  e.name?.toList.map .column ++ (if e.isPlaceholder then [.placeholder] else []) ++ e.directSubqueries.map .query

namespace Walk

variable {es fs : List Expr} {cs ds : List Content}

theorem met_append (cs ds : List Content) : met (cs ++ ds) = met cs ++ met ds := by
  rw [met, List.filter_append, List.map_append]
  rfl

theorem met_missed (cs : List Content) : met (missed cs) = [] := by
  have hfilter : (missed cs).filter Content.isMet = [] := by
    rw [List.filter_eq_nil_iff]
    intro c hc
    obtain ⟨_, -, rfl⟩ := List.mem_map.1 hc
    exact Bool.false_ne_true
  rw [met, hfilter]
  rfl

/-- Of the contents, those are met that the walks take at the expressions, in order. -/
def Walked (es : List Expr) (cs : List Content) : Prop := met cs = es.flatMap Expr.items

namespace Walked

theorem nil : Walked [] [] := rfl

theorem both (h : Walked es cs) (h' : Walked fs ds) : Walked (es ++ fs) (cs ++ ds) := by
  rw [Walked, met_append, List.flatMap_append, ← h, ← h']

/-- What is passed by adds nothing. -/
theorem passing (h : Walked es cs) (ds : List Content) : Walked es (cs ++ missed ds) := by
  rw [Walked, met_append, met_missed, List.append_nil]
  exact h

/-- An expression that is made of its operands alone. -/
theorem through {e : Expr} (he : e.items = []) (h : Walked es cs) : Walked (e :: es) cs := by
  rw [Walked, List.flatMap_cons, he]
  exact h

/-- An expression that is itself an item, or holds one. -/
theorem item {e : Expr} {i : Item} (he : e.items = [i]) (h : Walked es cs) : Walked (e :: es) (⟨i, true⟩ :: cs) := by
  rw [Walked, List.flatMap_cons, he, ← h]
  rfl

end Walked

theorem walked_missed (cs : List Content) : Walked [] (missed cs) := met_missed cs

theorem walked_value (v : Value) : Walked [.value v] v.contents := by
  cases v <;> rfl

end Walk

open Walk

mutual

/-- What an expression holds and what the walks take of it follow the same operands, so that each constructor says which
of its parts are operands and which are missed. -/
theorem Expr.contents_walked : ∀ e : Expr, Walked e.subterms e.contents
  | .ident _ => .item rfl .nil
  | .compound _ => .item rfl .nil
  | .value v => walked_value v
  | .nested e => .through rfl (Expr.contents_walked e)
  | .tuple items => .through rfl (Expr.contentsList_walked items)
  | .unary _ e => .through rfl (Expr.contents_walked e)
  | .binary l _ r => .through rfl (.both (Expr.contents_walked l) (Expr.contents_walked r))
  | .test e _ _ => .through rfl (Expr.contents_walked e)
  | .distinctFrom l _ r => .through rfl (.both (Expr.contents_walked l) (Expr.contents_walked r))
  | .inList e _ items => .through rfl (.both (Expr.contents_walked e) (Expr.contentsList_walked items))
  | .inSubquery e _ _ => .item rfl (Expr.contents_walked e)
  | .between e _ low high =>
    .through rfl (.both (.both (Expr.contents_walked e) (Expr.contents_walked low)) (Expr.contents_walked high))
  | .pattern e _ _ _ p _ => .through rfl (.passing (.both (Expr.contents_walked e) (Expr.contents_walked p)) _)
  | .quantified l _ _ r => .through rfl (.both (Expr.contents_walked l) (Expr.contents_walked r))
  | .cast _ e _ _ => .through rfl (.passing (Expr.contents_walked e) _)
  | .case operand branches otherwise =>
    .through rfl (.both (.both (Expr.contentsOption_walked operand) (Branch.contentsList_walked branches))
      (Expr.contentsOption_walked otherwise))
  | .subquery _ => .item rfl .nil
  | .exists_ _ _ => .item rfl .nil
  | .call _ _ .absent _ => .through rfl (walked_missed _)
  | .call _ _ (.subquery _) _ => .item rfl (walked_missed _)
  | .call _ _ (.list _ items _) _ => .through rfl (.passing (.passing (Arg.contentsList_walked items) _) _)
  | .form _ _ => .through rfl (walked_missed _)

theorem Expr.contentsList_walked : ∀ es : List Expr, Walked (Expr.descendantsList es) (Expr.contentsList [] es)
  | [] => .nil
  | e :: es => .both (Expr.contents_walked e) (Expr.contentsList_walked es)

theorem Expr.contentsOption_walked : ∀ e : Option Expr, Walked (Expr.descendantsOption e) (Expr.contentsOption e)
  | none => .nil
  | some e => Expr.contents_walked e

theorem Branch.contents_walked : ∀ b : Branch, Walked b.descendants b.contents
  | ⟨condition, result⟩ => .both (Expr.contents_walked condition) (Expr.contents_walked result)

theorem Branch.contentsList_walked : ∀ bs : List Branch, Walked (Branch.descendantsList bs) (Branch.contentsList bs)
  | [] => .nil
  | b :: bs => .both (Branch.contents_walked b) (Branch.contentsList_walked bs)

theorem Arg.contents_walked : ∀ a : Arg, Walked a.descendants a.contents
  | .expr e => Expr.contents_walked e
  | .named _ _ e => .passing (Expr.contents_walked e) _
  | .star _ => .nil
  | .namedStar _ _ _ => walked_missed _

theorem Arg.contentsList_walked : ∀ as : List Arg, Walked (Arg.descendantsList as) (Arg.contentsList as)
  | [] => .nil
  | a :: as => .both (Arg.contents_walked a) (Arg.contentsList_walked as)

end

namespace Walk

/-! ## The three walks -/

variable {e : Expr} {cs : List Content}

theorem items_column (e : Expr) : e.items.filterMap Item.column? = e.plainColumn?.toList := by
  rw [Expr.items, List.filterMap_append, List.filterMap_append, ← e.map_print_name]
  cases e.name? <;> split <;> simp [Item.column?, Item.name?, Function.comp_def]

theorem items_query (e : Expr) : e.items.filterMap Item.query? = e.directSubqueries := by
  rw [Expr.items, List.filterMap_append, List.filterMap_append]
  split <;> simp [Item.query?, Function.comp_def]

theorem items_placeholder (e : Expr) : e.items.countP Item.isPlaceholder = [e].countP Expr.isPlaceholder := by
  rw [Expr.items, List.countP_append, List.countP_append, List.countP_singleton]
  split <;> simp [Item.isPlaceholder, Function.comp_def]

theorem referencedColumns_eq (e : Expr) : e.referencedColumns = (met e.contents).filterMap Item.column? :=
  calc e.subterms.filterMap Expr.plainColumn?
    _ = e.subterms.flatMap fun x => x.plainColumn?.toList := List.filterMap_eq_flatMap_toList _ _
    _ = e.subterms.flatMap fun x => x.items.filterMap Item.column? := by simp only [items_column]
    _ = (e.subterms.flatMap Expr.items).filterMap Item.column? := List.filterMap_flatMap.symm
    _ = (met e.contents).filterMap Item.column? := by rw [Expr.contents_walked e]

theorem nestedQueries_eq (e : Expr) : e.nestedQueries = (met e.contents).filterMap Item.query? :=
  calc e.subterms.flatMap Expr.directSubqueries
    _ = e.subterms.flatMap fun x => x.items.filterMap Item.query? := by simp only [items_query]
    _ = (e.subterms.flatMap Expr.items).filterMap Item.query? := List.filterMap_flatMap.symm
    _ = (met e.contents).filterMap Item.query? := by rw [Expr.contents_walked e]

theorem placeholderCount_eq (e : Expr) : e.placeholderCount = (met e.contents).countP Item.isPlaceholder := by
  have hcount : ∀ es : List Expr, es.countP Expr.isPlaceholder = (es.flatMap Expr.items).countP Item.isPlaceholder := by
    intro es
    induction es with
    | nil => rfl
    | cons x es ih =>
      rw [List.flatMap_cons, List.countP_append, items_placeholder, ← ih, ← List.countP_append]
      rfl
  rw [Expr.contents_walked e]
  exact hcount e.subterms

/-! ## Completeness -/

/-- The walks see the whole expression: each placeholder in it is counted, each column that it refers to is listed, and
each query in it is reached. -/
structure Complete (e : Expr) : Prop where
  placeholders : e.placeholderCount = (e.contents.map Content.item).countP Item.isPlaceholder
  columns : ∀ name ∈ (e.contents.map Content.item).filterMap Item.column?, name ∈ e.referencedColumns
  queries : ((e.contents.map Content.item).filterMap Item.query?).Subperm e.nestedQueries

/-- As many items of a kind are met as there are if and only if each of them is. -/
theorem countP_met_iff {f : Item → Bool} :
    (met cs).countP f = (cs.map Content.item).countP f ↔ ∀ c ∈ cs, f c.item = true → c.isMet = true := by
  -- taking the items of the kind first leaves a filter that keeps its length only if it keeps everything
  have hmet : (met cs).countP f = ((cs.filter (f ∘ Content.item)).filter Content.isMet).length := by
    rw [met, List.countP_map, List.countP_eq_length_filter, List.filter_filter, List.filter_filter]
    simp only [Bool.and_comm]
  rw [hmet, List.countP_map, List.countP_eq_length_filter, List.length_filter_eq_length_iff]
  simp only [List.mem_filter, Function.comp_apply, and_imp]

theorem met_sublist (cs : List Content) : (met cs).Sublist (cs.map Content.item) := List.filter_sublist.map _

/-- A column that is listed is met somewhere, and nothing else is passed by. -/
theorem Complete.isMet (h : Complete e) :
    ∀ c ∈ e.contents, c.isMet = true ∨ ∃ name ∈ e.referencedColumns, c.item.column? = some name := by
  intro c hc
  cases hi : c.item with
  | column name =>
    have hname : name.print ∈ (e.contents.map Content.item).filterMap Item.column? :=
      List.mem_filterMap.2 ⟨.column name, hi ▸ List.mem_map_of_mem hc, rfl⟩
    exact .inr ⟨name.print, h.columns name.print hname, rfl⟩
  | placeholder =>
    have hcount := h.placeholders
    rw [placeholderCount_eq] at hcount
    exact .inl (countP_met_iff.1 hcount c hc (by rw [hi]; rfl))
  | query q =>
    have hlength := h.queries.length_le
    rw [nestedQueries_eq, List.length_filterMap_eq_countP, List.length_filterMap_eq_countP] at hlength
    have hcount := Nat.le_antisymm (met_sublist e.contents).countP_le hlength
    exact .inl (countP_met_iff.1 hcount c hc (by rw [hi]; rfl))

/-- Of a kind of which nothing is passed by, all is met, in order. -/
theorem filterMap_met {β : Type} {g : Item → Option β} (h : ∀ c ∈ cs, (g c.item).isSome → c.isMet = true) :
    (met cs).filterMap g = (cs.map Content.item).filterMap g := by
  rw [met, List.filterMap_map, List.filterMap_map, List.filterMap_filter]
  refine List.filterMap_congr fun c hc => ?_
  split
  · rfl
  · rename_i hnot
    exact (Option.not_isSome_iff_eq_none.1 (mt (h c hc) hnot)).symm

/-- The walks find what is met, in order and as often as it is written; so they see the whole expression if and only if
nothing is passed by but columns that they also meet elsewhere. -/
theorem walks_complete_iff (e : Expr) :
    e.placeholderCount = (met e.contents).countP Item.isPlaceholder ∧
      e.referencedColumns = (met e.contents).filterMap Item.column? ∧
      e.nestedQueries = (met e.contents).filterMap Item.query? ∧
      (Complete e ↔ ∀ c ∈ e.contents, c.isMet = true ∨ ∃ name ∈ e.referencedColumns, c.item.column? = some name) := by
  refine ⟨placeholderCount_eq e, referencedColumns_eq e, nestedQueries_eq e, Complete.isMet, fun h => ?_⟩
  have hmet : ∀ c ∈ e.contents, c.item.column? = none → c.isMet = true := by
    intro c hc hnone
    refine (h c hc).resolve_right ?_
    rintro ⟨name, -, heq⟩
    rw [heq] at hnone
    cases hnone
  refine ⟨?_, ?_, ?_⟩
  · rw [placeholderCount_eq, countP_met_iff]
    intro c hc hi
    exact hmet c hc (Item.column?_of_isPlaceholder hi)
  · intro name hname
    obtain ⟨i, hi, hcolumn⟩ := List.mem_filterMap.1 hname
    obtain ⟨c, hc, rfl⟩ := List.mem_map.1 hi
    rcases h c hc with hc' | ⟨other, hother, heq⟩
    · rw [referencedColumns_eq]
      exact List.mem_filterMap.2 ⟨c.item, List.mem_map_of_mem (List.mem_filter.2 ⟨hc, hc'⟩), hcolumn⟩
    · rw [heq] at hcolumn
      cases hcolumn
      exact hother
  · rw [nestedQueries_eq, filterMap_met fun c hc hi => hmet c hc (Item.column?_of_query? hi)]

/-- The column and the placeholder of `SUBSTRING(a FROM ?) = 'x'` are passed by. -/
theorem not_complete_substring :
    let part : Expr := .form (.substring "SUBSTRING" false true false) [.ident ⟨"a", none⟩, .value (.placeholder "?")]
    let e : Expr := .binary part .eq (.value (.string "x"))
    e.placeholderCount = 0 ∧ e.referencedColumns = [] ∧ ¬Complete e := by
  intro part e
  refine ⟨rfl, rfl, fun h => ?_⟩
  exact absurd h.placeholders (by decide)

end Walk

end SqlTemplate
