/-
The order in which queries and conditions are found, against the order in which they are printed.

Both walks go through a tree from left to right, with two exceptions: of `a IN (query)` they take the
query before the operand, and of a SELECT that is written after its tables they take the items before the
tables. Main statement: queries and conditions come in the order in which they start in the printed text
if and only if at each of these places there is nothing to list on one of the two sides.
-/
import SqlTemplate.Proofs.Condition.Collect
import SqlTemplate.Proofs.Condition.Places
import Mathlib.Data.List.Forall2

namespace SqlTemplate

open Condition Marked

/-! ## Queries in an expression -/

/-- The entry of a query in an expression. -/
def Query.entry (q : Query) : Entry Query := ⟨q, q.print, true⟩

/-- Where the walk turns at an expression itself: of `l IN (q)` it takes the query first. -/
def Expr.turns : Expr → List (Turn Query)
  | .inSubquery l _ q => [⟨(l.marked .queries).marks, ((plain (q.marked .queries).text).mark q).marks⟩]
  | _ => []

/-- The marks are on the queries that stand directly in the expressions, in order. -/
structure Asks (es : List Expr) (a : Marked Query) : Prop where
  entries : a.entries = (es.flatMap Expr.directSubqueries).map Query.entry
  turns : a.turns = es.flatMap Expr.turns

namespace Asks

variable {es fs : List Expr} {a b : Marked Query} {e : Expr}

theorem plain (text : String) : Asks [] (plain text) := ⟨rfl, rfl⟩

theorem both (h : Asks es a) (h' : Asks fs b) : Asks (es ++ fs) (a ++ b) := by
  constructor
  · rw [entries_append, h.entries, h'.entries, List.flatMap_append, List.map_append]
  · rw [turns_append, h.turns, h'.turns, List.flatMap_append]

theorem behind (h : Asks es a) (text : String) : Asks es (a ++ .plain text) := by
  simpa using h.both (.plain text)

theorem before (h : Asks es a) (text : String) : Asks es (.plain text ++ a) := (plain text).both h

theorem enclosed (h : Asks es a) (before after : String) : Asks es (enclosed before a after) := (h.before before).behind after

/-- An expression that holds no query itself. -/
theorem through (he : e.directSubqueries = []) (hturns : e.turns = []) (h : Asks es a) : Asks (e :: es) a := by
  constructor
  · rw [h.entries, List.flatMap_cons, he, List.nil_append]
  · rw [h.turns, List.flatMap_cons, hturns, List.nil_append]

/-- An expression that is a query. -/
theorem query {q : Query} (he : e.directSubqueries = [q]) (hturns : e.turns = []) :
    Asks [e] (Visitor.queries.query q (q.marked .queries)) := by
  constructor
  · simp [he, Visitor.queries, Query.entry, q.text_marked]
  · simp [hturns, Visitor.queries]

/-- An operand before IN and the query behind it, which is taken first. -/
theorem turned {l : Expr} {q : Query} (h : Asks l.subterms (l.marked .queries)) (negated : Bool) (word : String) :
    Asks (Expr.inSubquery l negated q).subterms
      (turned (l.marked .queries) word (Visitor.queries.query q (q.marked .queries))) := by
  have hsubterms : (Expr.inSubquery l negated q).subterms = [.inSubquery l negated q] ++ l.subterms := rfl
  constructor
  · rw [entries_turned, (query (e := .subquery q) rfl rfl).entries, h.entries, hsubterms, List.flatMap_append, List.map_append]
    rfl
  · rw [turns_turned, (query (e := .subquery q) rfl rfl).turns, h.turns, hsubterms, List.flatMap_append]
    exact congrArg (List.cons _) (List.append_nil _)

end Asks

/-- The same of texts that are printed one after the other. -/
structure AsksAll (es : List Expr) (as : List (Marked Query)) : Prop where
  entries : as.flatMap Marked.entries = (es.flatMap Expr.directSubqueries).map Query.entry
  turns : as.flatMap Marked.turns = es.flatMap Expr.turns

namespace AsksAll

variable {es fs : List Expr} {a : Marked Query} {as : List (Marked Query)}

theorem nil : AsksAll [] [] := ⟨rfl, rfl⟩

theorem cons (h : Asks es a) (h' : AsksAll fs as) : AsksAll (es ++ fs) (a :: as) := by
  constructor
  · rw [List.flatMap_cons, h.entries, h'.entries, List.flatMap_append, List.map_append]
  · rw [List.flatMap_cons, h.turns, h'.turns, List.flatMap_append]

theorem commas (h : AsksAll es as) : Asks es (commas as) := ⟨(entries_commas as).trans h.entries, (turns_commas as).trans h.turns⟩

theorem prefixed {a : Option (Marked Query)} (h : AsksAll es a.toList) (before : String) : Asks es (prefixed before a) :=
  ⟨(entries_prefixed before a).trans h.entries, (turns_prefixed before a).trans h.turns⟩

end AsksAll

mutual

theorem Expr.marked_asks : ∀ e : Expr, Asks e.subterms (e.marked .queries)
  | .ident _ => .through rfl rfl (.plain _)
  | .compound _ => .through rfl rfl (.plain _)
  | .value _ => .through rfl rfl (.plain _)
  | .nested e => .through rfl rfl (e.marked_asks.enclosed _ _)
  | .tuple items => .through rfl rfl ((Expr.markedList_asks items).commas.enclosed _ _)
  | .unary _ e => .through rfl rfl (e.marked_asks.enclosed _ _)
  | .binary l _ r => .through rfl rfl (.both (l.marked_asks.behind _) r.marked_asks)
  | .test e _ _ => .through rfl rfl (e.marked_asks.behind _)
  | .distinctFrom l _ r => .through rfl rfl (.both (l.marked_asks.behind _) r.marked_asks)
  | .inList e _ items => .through rfl rfl (.both e.marked_asks ((Expr.markedList_asks items).commas.enclosed _ _))
  | .inSubquery e _ _ => .behind (.turned e.marked_asks _ _) _
  | .between e _ low high =>
    .through rfl rfl (.both (.behind (.both (e.marked_asks.behind _) low.marked_asks) _) high.marked_asks)
  | .pattern e _ _ _ p _ => .through rfl rfl (.behind (.both (e.marked_asks.behind _) p.marked_asks) _)
  | .quantified l _ _ r => by
    have hr : Asks r.subterms (if r.isSubquery then r.marked .queries else enclosed "(" (r.marked .queries) ")") := by
      split
      · exact r.marked_asks
      · exact r.marked_asks.enclosed _ _
    exact .through rfl rfl (.both (l.marked_asks.behind _) hr)
  | .cast _ e _ _ => .through rfl rfl (e.marked_asks.enclosed _ _)
  | .case operand branches otherwise =>
    .through rfl rfl (.behind (.both (.both (.both (.plain _) ((Expr.markedOption_asks operand).prefixed _))
      (Branch.markedList_asks branches)) ((Expr.markedOption_asks otherwise).prefixed _)) _)
  | .subquery _ => .enclosed (.query rfl rfl) _ _
  | .exists_ _ _ => .enclosed (.query rfl rfl) _ _
  | .call _ _ .absent _ => .through rfl rfl (.enclosed (.plain _) _ _)
  | .call _ _ (.subquery _) _ => .enclosed (.enclosed (.query rfl rfl) _ _) _ _
  | .call _ _ (.list _ items _) _ => .through rfl rfl (.enclosed ((Arg.markedList_asks items).commas.enclosed _ _) _ _)
  | .form _ _ => .through rfl rfl (.plain _)

theorem Expr.markedList_asks : ∀ es : List Expr, AsksAll (Expr.descendantsList es) (Expr.markedList .queries es)
  | [] => .nil
  | e :: es => .cons e.marked_asks (Expr.markedList_asks es)

theorem Expr.markedOption_asks :
    ∀ e : Option Expr, AsksAll (Expr.descendantsOption e) (Expr.markedOption .queries e).toList
  | none => .nil
  | some e => by
    rw [Expr.descendantsOption, ← List.append_nil (e :: e.descendants)]
    exact .cons e.marked_asks .nil

theorem Branch.marked_asks : ∀ b : Branch, Asks b.descendants (b.marked .queries)
  | ⟨condition, result⟩ => .both ((condition.marked_asks.before _).behind _) result.marked_asks

theorem Branch.markedList_asks : ∀ bs : List Branch, Asks (Branch.descendantsList bs) (Branch.markedList .queries bs)
  | [] => .plain _
  | b :: bs => .both b.marked_asks (Branch.markedList_asks bs)

theorem Arg.marked_asks : ∀ a : Arg, Asks a.descendants (a.marked .queries)
  | .expr e => e.marked_asks
  | .named _ _ e => e.marked_asks.before _
  | .star _ => .plain _
  | .namedStar _ _ _ => .plain _

theorem Arg.markedList_asks : ∀ as : List Arg, AsksAll (Arg.descendantsList as) (Arg.markedList .queries as)
  | [] => .nil
  | a :: as => .cons a.marked_asks (Arg.markedList_asks as)

end

/-- Every query in an expression is printed, so that none is listed only if there is none. -/
theorem Expr.starts_queries_eq_nil (e : Expr) : starts (e.marked .queries).marks = [] ↔ e.nestedQueries = [] := by
  have hentries : (e.marked .queries).marks.map Mark.entry = e.nestedQueries.map Query.entry := e.marked_asks.entries
  constructor
  · intro h
    rw [starts, List.filterMap_eq_nil_iff] at h
    rw [← List.map_eq_nil_iff (f := Query.entry), ← hentries, List.map_eq_nil_iff, List.eq_nil_iff_forall_not_mem]
    intro m hm
    obtain ⟨q, -, hq⟩ := List.mem_map.1 (hentries ▸ List.mem_map_of_mem hm)
    have hprinted := congrArg Entry.printed hq
    rw [Mark.entry, h m hm] at hprinted
    exact Bool.false_ne_true hprinted.symm
  · intro h
    rw [h] at hentries
    rw [List.map_eq_nil_iff.1 hentries]
    rfl

/-- The queries come in the order in which they are printed if and only if no operand before IN and a query holds one. -/
theorem Expr.sorted_queries_iff (e : Expr) : Sorted (e.marked .queries).marks ↔
    ∀ l negated q, .inSubquery l negated q ∈ e.subterms → l.nestedQueries = [] := by
  have hidle (l : Expr) (q : Query) :
      Turn.Idle ⟨(l.marked .queries).marks, ((plain (q.marked .queries).text).mark q).marks⟩ ↔ l.nestedQueries = [] := by
    rw [← l.starts_queries_eq_nil]
    exact or_iff_left (List.cons_ne_nil _ _)
  rw [(e.marked .queries).sorted_iff, e.marked_asks.turns]
  simp only [List.forall_mem_flatMap]
  constructor
  · intro h l negated q hmem
    exact (hidle l q).1 (h _ hmem _ List.mem_cons_self)
  · intro h f hf t ht
    cases f with
    | inSubquery l negated q =>
      obtain rfl := List.mem_singleton.1 ht
      exact (hidle l q).2 (h l negated q hf)
    | _ => exact nomatch ht

/-! ## Conditions of a statement -/

/-- The condition is the one that the place makes, and the mark on the place has the text that is printed there. A place
that is not printed is a value of an INSERT that sets its columns by name. -/
structure Entry.Makes (x : Entry Site) (n : Node) : Prop where
  node : x.item.node = .ok n
  text : x.text = x.item.print
  printed : x.printed = false → ∃ name e, x.item = .set name e

/-- The conditions that are collected are those of the marked places, in order. -/
def Collects (x : Conditions) (a : Marked Site) : Prop := Yields x fun ns => List.Forall₂ Entry.Makes a.entries ns

/-- The same of texts that are printed one after the other. -/
def CollectsAll (x : Conditions) (as : List (Marked Site)) : Prop :=
  Yields x fun ns => List.Forall₂ Entry.Makes (as.flatMap entries) ns

variable {x y z : Conditions} {a b : Marked Site} {as bs : List (Marked Site)}

namespace Collects

theorem of_entries (h : a.entries = b.entries) (hb : Collects x b) : Collects x a := by
  rw [Collects, h]
  exact hb

theorem plain (text : String) : Collects (.ok []) (plain text) := yields_ok .nil

theorem both (hx : Collects x a) (hy : Collects y b) : Collects (gather x y) (a ++ b) := by
  rw [Collects, entries_append]
  exact Yields.gather hx hy fun _ _ hn hm => List.rel_append hn hm

theorem behind (hx : Collects x a) (text : String) : Collects x (a ++ .plain text) := hx.of_entries (by simp)

theorem before (hx : Collects x a) (text : String) : Collects x (.plain text ++ a) := hx.of_entries (by simp)

theorem enclosed (hx : Collects x a) (before after : String) : Collects x (enclosed before a after) :=
  hx.of_entries (by simp)

theorem apart (hx : Collects x a) : Collects x a.apart := hx.of_entries (by simp)

/-- Of two parts that are visited the other way round, the second one comes first. -/
theorem turned (hx : Collects x a) (hy : Collects y b) (word : String) : Collects (gather y x) (turned a word b) := by
  rw [Collects, entries_turned]
  exact Yields.gather hy hx fun _ _ hn hm => List.rel_append hn hm

/-- A place that makes a condition comes before those inside. -/
theorem site {s : Site} (hx : Collects x a) (htext : a.text = s.print) :
    Collects (do let n ← s.node; return n :: (← x)) (Visitor.sites.site s a) := by
  intro ns hn
  obtain ⟨n, hc, hn⟩ := bind_eq_ok.1 hn
  obtain ⟨inner, hi, hn⟩ := bind_eq_ok.1 hn
  cases hn
  exact .cons ⟨hc, htext, nofun⟩ (hx inner hi)

/-- Places may be left out of the text if all of them are values that INSERT sets. -/
theorem hidden (hx : Collects x a) (hset : ∀ e ∈ a.entries, ∃ name v, e.item = .set name v) : Collects x a.hidden := by
  intro ns hn
  rw [entries_hidden, List.forall₂_map_left_iff]
  have hall := hx ns hn
  have hmem := (List.forall₂_and_left _ _).2 ⟨hset, hall⟩
  exact hmem.imp fun e n h => ⟨h.2.node, h.2.text, fun _ => h.1⟩

end Collects

namespace CollectsAll

theorem nil : CollectsAll (.ok []) [] := yields_ok .nil

theorem cons (hx : Collects x a) (hy : CollectsAll y as) : CollectsAll (gather x y) (a :: as) :=
  Yields.gather hx hy fun _ _ hn hm => List.rel_append hn hm

theorem of_entries (h : a.entries = as.flatMap entries) (hx : CollectsAll x as) : Collects x a := by
  rw [Collects, h]
  exact hx

theorem skip (hx : CollectsAll x as) (text : String) : CollectsAll x (.plain text :: as) := hx

theorem one (hx : Collects x a) : CollectsAll x [a] := by
  rw [CollectsAll, List.flatMap_singleton]
  exact hx

theorem commas (hx : CollectsAll x as) : Collects x (commas as) := hx.of_entries (by simp)

theorem row (hx : CollectsAll x as) : Collects x (row as) := hx.of_entries (by simp)

theorem keywordList (hx : CollectsAll x as) (keyword : String) : Collects x (keywordList keyword as) := hx.of_entries (by simp)

theorem prefixed {a : Option (Marked Site)} (hx : CollectsAll x a.toList) (before : String) :
    Collects x (prefixed before a) := hx.of_entries (by simp)

theorem guarded {a : Option (Marked Site)} (hx : CollectsAll x a.toList) (keyword : String) :
    Collects x (guarded keyword a) := hx.of_entries (by simp)

theorem withList (hx : CollectsAll x as) (recursive : Bool) : Collects x (withList recursive as) :=
  hx.of_entries (by simp)

theorem setList (hx : CollectsAll x as) (noColumns : Bool) : Collects x (setList noColumns as) :=
  hx.of_entries (by simp)

theorem valuesList (hx : CollectsAll x as) (explicitRow : Bool) : Collects x (valuesList explicitRow as) :=
  hx.of_entries (by simp)

end CollectsAll

theorem Collects.given (hx : Collects x a) (b : Bool) : Collects (if b then x else .ok []) (given b a) := by
  cases b with
  | false => exact .plain _
  | true => exact hx

theorem Collects.givenNot (hx : Collects x a) (b : Bool) : Collects (if b then .ok [] else x) (Marked.given (!b) a) := by
  cases b with
  | false => exact hx
  | true => exact .plain _

/-- The items of a SELECT are visited before its tables, wherever they stand. -/
theorem Collects.select (hx : CollectsAll x as) (hy : CollectsAll y bs) (tablesFirst : Bool) (chosen : String)
    (into : Option String) : Collects (gather x y) (select tablesFirst chosen as into bs) := by
  rw [Collects, entries_select]
  exact Yields.gather hx hy fun _ _ hn hm => List.rel_append hn hm

/-! ### Inserted rows -/

/-- A value is paired, and then come the conditions of the queries in it. -/
theorem Expr.rowPairings_cons (c : Ident) (cs : List Ident) (e : Expr) (es : List Expr) :
    Expr.rowPairings (c :: cs) (e :: es) =
      gather (do let n ← (Site.value .insertValues [c.print] 1 e).node; return n :: (← e.innerConditions))
        (Expr.rowPairings cs es) := by
  rw [Expr.rowPairings, Site.node, gather]
  cases pairing [c.print] 1 e .insertValues with
  | error _ => rfl
  | ok n => cases e.innerConditions <;> rfl

theorem Expr.rowPairings_nil (es : List Expr) : Expr.rowPairings [] es = .ok [] := by
  cases es <;> rfl

/-- The pairings of INSERT ... SET are those of the assignments, and no query in a value is entered. -/
theorem insertedPairings_collects : ∀ as : List Assignment,
    CollectsAll (insertedPairings as) (as.map (Assignment.markedSet .sites))
  | [] => .nil
  | ⟨.column name, e⟩ :: rest => by
    have hcons : insertedPairings (⟨.column name, e⟩ :: rest) =
        gather (do let n ← (Site.set name e).node; return n :: (← (.ok [] : Conditions))) (insertedPairings rest) := by
      rw [insertedPairings, gather, Site.node]
      cases pairing [name.print] 1 e .insertValues <;> rfl
    rw [hcons]
    exact .cons (.before (.site (.plain e.print) rfl) _) (insertedPairings_collects rest)
  | ⟨.row _, _⟩ :: rest => (insertedPairings_collects rest).skip _

theorem exists_set_of_mem_markedSet (as : List Assignment) :
    ∀ x ∈ (commas (as.map (Assignment.markedSet .sites))).entries, ∃ name e, x.item = .set name e := by
  intro x hx
  rw [entries_commas] at hx
  obtain ⟨m, hm, hx⟩ := List.mem_flatMap.1 hx
  obtain ⟨⟨target, e⟩, -, rfl⟩ := List.mem_map.1 hm
  cases target with
  | column name =>
    obtain rfl := List.mem_singleton.1 hx
    exact ⟨name, e, rfl⟩
  | row names => exact nomatch hx

/-! ### The collection -/

mutual

theorem Expr.marked_collects : ∀ e : Expr, Collects e.innerConditions (e.marked .sites)
  | .ident _ => .plain _
  | .compound _ => .plain _
  | .value _ => .plain _
  | .nested e => e.marked_collects.enclosed _ _
  | .tuple items => (Expr.markedList_collects items).commas.enclosed _ _
  | .unary _ e => e.marked_collects.enclosed _ _
  | .binary l _ r => .both (l.marked_collects.behind _) r.marked_collects
  | .test e _ _ => e.marked_collects.behind _
  | .distinctFrom l _ r => .both (l.marked_collects.behind _) r.marked_collects
  | .inList e _ items => .both e.marked_collects ((Expr.markedList_collects items).commas.enclosed _ _)
  | .inSubquery e _ q => .behind (.turned e.marked_collects q.marked_collects _) _
  | .between e _ low high => by
    rw [Expr.innerConditions, gather_three]
    exact .both (.behind (.both (e.marked_collects.behind _) low.marked_collects) _) high.marked_collects
  | .pattern e _ _ _ p _ => .behind (.both (e.marked_collects.behind _) p.marked_collects) _
  | .quantified l _ _ r => by
    have hr : Collects r.innerConditions (if r.isSubquery then r.marked .sites else enclosed "(" (r.marked .sites) ")") := by
      split
      · exact r.marked_collects
      · exact r.marked_collects.enclosed _ _
    exact .both (l.marked_collects.behind _) hr
  | .cast _ e _ _ => e.marked_collects.enclosed _ _
  | .case operand branches otherwise => by
    rw [Expr.innerConditions, gather_three]
    exact .behind (.both (.both (.before ((Expr.markedOption_collects operand).prefixed _) _)
      (Branch.markedList_collects branches)) ((Expr.markedOption_collects otherwise).guarded _)) _
  | .subquery q => q.marked_collects.enclosed _ _
  | .exists_ _ q => q.marked_collects.enclosed _ _
  | .call _ _ args _ => args.marked_collects.enclosed _ _
  | .form _ _ => .plain _

theorem Expr.markedList_collects :
    ∀ es : List Expr, CollectsAll (Expr.innerConditionsList es) (Expr.markedList .sites es)
  | [] => .nil
  | e :: es => .cons e.marked_collects (Expr.markedList_collects es)

theorem Expr.markedOption_collects :
    ∀ e : Option Expr, CollectsAll (Expr.innerConditionsOption e) (Expr.markedOption .sites e).toList
  | none => .nil
  | some e => .one e.marked_collects

theorem Expr.markedRows_collects :
    ∀ rows : List (List Expr), CollectsAll (Expr.innerConditionsRows rows) (Expr.markedRows .sites rows)
  | [] => .nil
  | row :: rows => .cons ((Expr.markedList_collects row).commas.enclosed _ _) (Expr.markedRows_collects rows)

theorem Expr.markedPredicate_collects (p : Position) :
    ∀ e : Option Expr, CollectsAll (Expr.predicateConditions p e) (Expr.markedPredicate .sites p e).toList
  | none => .nil
  | some e => .one (.site (s := .predicate p e) e.marked_collects (e.text_marked .sites))

theorem Expr.markedPairs_collects :
    ∀ (columns : List Ident) (es : List Expr), CollectsAll (Expr.rowPairings columns es) (Expr.markedPairs .sites columns es)
  | [], [] => .nil
  | _ :: _, [] => .nil
  | [], _ :: es => by
    have hrest := Expr.markedPairs_collects [] es
    rw [Expr.rowPairings_nil] at hrest ⊢
    exact hrest.skip _
  | c :: cs, e :: es => by
    rw [Expr.rowPairings_cons]
    exact .cons (.site e.marked_collects (e.text_marked .sites)) (Expr.markedPairs_collects cs es)

theorem Expr.markedPairsRows_collects (columns : List Ident) : ∀ rows : List (List Expr),
    CollectsAll (Expr.rowsPairings columns rows) (Expr.markedPairsRows .sites columns rows)
  | [] => .nil
  | row :: rows => by
    rw [Expr.rowsPairings_cons]
    split
    · exact yields_error
    · exact .cons ((Expr.markedPairs_collects columns row).commas.enclosed _ _) (Expr.markedPairsRows_collects columns rows)

theorem Branch.marked_collects : ∀ b : Branch, Collects b.innerConditions (b.marked .sites)
  | ⟨condition, result⟩ => .both ((condition.marked_collects.before _).behind _) result.marked_collects

theorem Branch.markedList_collects :
    ∀ bs : List Branch, Collects (Branch.innerConditionsList bs) (Branch.markedList .sites bs)
  | [] => .plain _
  | b :: bs => .both b.marked_collects (Branch.markedList_collects bs)

theorem Args.marked_collects : ∀ args : Args, Collects args.innerConditions (args.marked .sites)
  | .absent => .plain _
  | .subquery q => q.marked_collects.enclosed _ _
  | .list _ items _ => (Arg.markedList_collects items).commas.enclosed _ _

theorem Arg.marked_collects : ∀ a : Arg, Collects a.innerConditions (a.marked .sites)
  | .expr e => e.marked_collects
  | .named _ _ e => e.marked_collects.before _
  | .star _ => .plain _
  | .namedStar _ _ _ => .plain _

theorem Arg.markedList_collects : ∀ as : List Arg, CollectsAll (Arg.innerConditionsList as) (Arg.markedList .sites as)
  | [] => .nil
  | a :: as => .cons a.marked_collects (Arg.markedList_collects as)

theorem Query.marked_collects : ∀ q : Query, Collects q.conditions (q.marked .sites)
  | ⟨_, ctes, body, _⟩ => .behind (.both ((Cte.markedList_collects ctes).withList _) body.marked_collects) _

theorem Query.markedSource_collects (columns : List Ident) :
    ∀ q : Query, Collects (q.sourceConditions columns) (q.markedSource .sites columns)
  | ⟨_, ctes, body, _⟩ => by
    have hctes := Cte.markedList_collects ctes
    have hbody := body.marked_collects
    cases body with
    | values explicitRow rows =>
      refine .behind ?_ _
      rw [Query.sourceConditions.eq_def]
      dsimp only
      split
      · exact .both (hctes.withList _) hbody
      · exact .before ((Expr.markedPairsRows_collects columns rows).valuesList _) _
    | _ => exact .behind (.both (hctes.withList _) hbody) _

theorem Query.markedSourceOption_collects (columns : List Ident) :
    ∀ q : Option Query, CollectsAll (Query.sourceConditionsOption columns q) (Query.markedSourceOption .sites columns q).toList
  | none => .nil
  | some q => .one (q.markedSource_collects columns)

theorem Cte.marked_collects : ∀ c : Cte, Collects c.conditions (c.marked .sites)
  | ⟨_, _, q, _⟩ => q.marked_collects.enclosed _ _

theorem Cte.markedList_collects : ∀ cs : List Cte, CollectsAll (Cte.conditionsList cs) (Cte.markedList .sites cs)
  | [] => .nil
  | c :: cs => .cons c.marked_collects (Cte.markedList_collects cs)

theorem SetExpr.marked_collects : ∀ b : SetExpr, Collects b.conditions (b.marked .sites)
  | .select s => s.marked_collects
  | .query q => q.marked_collects.enclosed _ _
  | .operation l _ _ r => .both (l.marked_collects.behind _) r.marked_collects
  | .values _ rows => (Expr.markedRows_collects rows).valuesList _
  | .table _ => .plain _
  | .insert i => i.marked_collects
  | .update u => u.marked_collects
  | .delete _ => .plain _

theorem Select.marked_collects : ∀ s : Select, Collects s.conditions (s.marked .sites)
  | ⟨_, _, projection, _, tables, _, selection, _, having, _⟩ => by
    rw [Select.conditions_eq]
    exact .behind (.both (.behind (.both (.behind (.select (SelectItem.markedList_collects projection)
      (TableTree.markedList_collects tables) _ _ _) _) ((Expr.markedPredicate_collects .where_ selection).guarded _)) _)
      ((Expr.markedPredicate_collects .having having).guarded _)) _

theorem SelectItem.marked_collects : ∀ i : SelectItem, Collects i.conditions (i.marked .sites)
  | .expr e _ => e.marked_collects.behind _
  | .wildcard _ _ => .plain _

theorem SelectItem.markedList_collects :
    ∀ is : List SelectItem, CollectsAll (SelectItem.conditionsList is) (SelectItem.markedList .sites is)
  | [] => .nil
  | i :: is => .cons i.marked_collects (SelectItem.markedList_collects is)

theorem TableTree.marked_collects : ∀ t : TableTree, Collects t.conditions (t.marked .sites)
  | ⟨relation, joins⟩ => .both relation.marked_collects (Join.markedList_collects joins).row

theorem TableTree.markedList_collects :
    ∀ ts : List TableTree, CollectsAll (TableTree.conditionsList ts) (TableTree.markedList .sites ts)
  | [] => .nil
  | t :: ts => .cons t.marked_collects (TableTree.markedList_collects ts)

theorem Factor.marked_collects : ∀ f : Factor, Collects f.conditions (f.marked .sites)
  | .table _ _ _ _ => .plain _
  | .tableCall _ _ _ _ _ => .plain _
  | .derived _ q _ => q.marked_collects.enclosed _ _
  | .nested t _ => t.marked_collects.enclosed _ _
  | .computed _ _ _ => .plain _
  | .turned _ _ _ => .plain _

theorem Join.marked_collects : ∀ j : Join, Collects j.conditions (j.marked .sites)
  | ⟨_, op, relation, _, condition, _⟩ => by
    have hcondition := Expr.markedPredicate_collects .joinOn condition
    rw [Join.conditions_eq, Join.marked]
    refine .both (relation.marked_collects.enclosed _ _) ?_
    dsimp only
    cases op.hasCondition with
    | false => exact .plain _
    | true =>
      cases condition with
      | none => exact .plain _
      | some e => exact hcondition.commas.before _

theorem Join.markedList_collects : ∀ js : List Join, CollectsAll (Join.conditionsList js) (Join.markedList .sites js)
  | [] => .nil
  | j :: js => .cons j.marked_collects (Join.markedList_collects js)

theorem Assignment.marked_collects : ∀ a : Assignment, Collects a.conditions (a.marked .sites)
  | ⟨_, e⟩ => .before (.site (s := .value _ _ _ e) e.marked_collects (e.text_marked .sites)) _

theorem Assignment.markedList_collects :
    ∀ as : List Assignment, CollectsAll (Assignment.conditionsList as) (Assignment.markedList .sites as)
  | [] => .nil
  | a :: as => .cons a.marked_collects (Assignment.markedList_collects as)

theorem Insert.marked_collects : ∀ i : Insert, Collects i.conditions (i.marked .sites)
  | ⟨_, _, _, _, columns, _, source, assignments, _, _, _⟩ => by
    have hsets := insertedPairings_collects assignments
    have hsource := Query.markedSourceOption_collects columns source
    refine .enclosed ?_ _ _
    cases source with
    | none =>
      show Collects (gather (insertedPairings assignments) (.ok [])) _
      rw [gather_nil]
      exact hsets.setList _
    | some q => exact .both (hsets.commas.hidden (exists_set_of_mem_markedSet assignments)) hsource.commas

theorem Update.marked_collects : ∀ u : Update, Collects u.conditions (u.marked .sites)
  | ⟨_, table, sources, sourcesFirst, assignments, selection, _⟩ => by
    have hsources := (TableTree.markedList_collects sources).keywordList "FROM"
    rw [Update.conditions_eq]
    exact .behind (.both (.both (.both (.both (table.marked_collects.before _) (hsources.given _))
      ((Assignment.markedList_collects assignments).keywordList _)) (hsources.givenNot _))
      ((Expr.markedPredicate_collects .where_ selection).guarded _)) _

end

theorem Delete.marked_collects : ∀ d : Delete, Collects d.conditions (d.marked .sites)
  | ⟨_, _, tables, usingTables, selection, _, _⟩ => by
    rw [Delete.conditions_eq]
    exact .behind (.both (.both (.before (TableTree.markedList_collects tables).commas.apart _)
      ((TableTree.markedList_collects usingTables).keywordList _)) ((Expr.markedPredicate_collects .where_ selection).guarded _)) _

/-- The conditions of a statement are those of its places, in the order of the walk. -/
theorem Statement.marked_collects : ∀ st : Statement, Collects st.conditions (st.marked .sites)
  | .query q => q.marked_collects
  | .insert i => i.marked_collects
  | .update u => u.marked_collects
  | .delete d => d.marked_collects
  | .other => yields_error

/-! ## Document order -/

/-- The queries listed for an expression, each with the place where it is printed. They come in the order of these places
if and only if no operand before IN and a query holds a query. -/
structure QueriesPlaced (e : Expr) : Prop where
  text : (e.marked .queries).text = e.print
  marks : List.Forall₂ (fun m q => m.item = q ∧ m.text = q.print ∧ m.start.isSome) (e.marked .queries).marks e.nestedQueries
  stands : ∀ m ∈ (e.marked .queries).marks, m.StandsIn e.print
  sorted_iff : Sorted (e.marked .queries).marks ↔
    ∀ l negated q, .inSubquery l negated q ∈ e.subterms → l.nestedQueries = []

/-- The conditions collected for a statement, each with the place where its predicate or its value is printed. They come
in the order of these places if and only if there is no condition on one of the two sides wherever the walk turns. -/
structure ConditionsPlaced (st : Statement) (ns : List Node) : Prop where
  text : (st.marked .sites).text = st.print
  marks : List.Forall₂ (fun m n => m.entry.Makes n) (st.marked .sites).marks ns
  stands : ∀ m ∈ (st.marked .sites).marks, m.StandsIn st.print
  sorted_iff : Sorted (st.marked .sites).marks ↔ ∀ t ∈ (st.marked .sites).turns, t.Idle

theorem queriesPlaced (e : Expr) : QueriesPlaced e where
  text := e.text_marked .queries
  marks := by
    have hentries : (e.marked .queries).marks.map Mark.entry = e.nestedQueries.map Query.entry := e.marked_asks.entries
    have hall : List.Forall₂ Eq ((e.marked .queries).marks.map Mark.entry) (e.nestedQueries.map Query.entry) := by
      rw [hentries]
      exact List.forall₂_same.2 fun _ _ => rfl
    rw [List.forall₂_map_left_iff, List.forall₂_map_right_iff] at hall
    exact hall.imp fun m q h => ⟨congrArg Entry.item h, congrArg Entry.text h, congrArg Entry.printed h⟩
  stands := by
    rw [← e.text_marked .queries]
    exact (e.marked .queries).stands
  sorted_iff := e.sorted_queries_iff

theorem conditionsPlaced {st : Statement} {ns : List Node} (h : st.conditions = .ok ns) : ConditionsPlaced st ns where
  text := st.text_marked .sites
  marks := List.forall₂_map_left_iff.1 (st.marked_collects ns h)
  stands := by
    rw [← st.text_marked .sites]
    exact (st.marked .sites).stands
  sorted_iff := (st.marked .sites).sorted_iff

/-- Where queries and conditions are printed, and when they are listed in that order. -/
theorem document_order_iff (e : Expr) (st : Statement) (ns : List Node) (h : st.conditions = .ok ns) :
    QueriesPlaced e ∧ ConditionsPlaced st ns :=
  ⟨queriesPlaced e, conditionsPlaced h⟩

/-- `SELECT * FROM table WHERE condition`. -/
def lookup (table condition : String) : Query :=
  ⟨false, [], .select ⟨false, [], [.wildcard none []], none, [⟨.table [⟨table, none⟩] none ⟨[], false, []⟩ [], []⟩], [],
    some (.ident ⟨condition, none⟩), [], none, []⟩, []⟩

/-- An UPDATE with a query in what it sets and two in its condition, `a IN (query) AND EXISTS (query)`. -/
theorem document_order_update :
    let e : Expr := .binary (.inSubquery (.ident ⟨"a", none⟩) false (lookup "u" "b")) .and (.exists_ false (lookup "v" "d"))
    let st : Statement := .update ⟨none, ⟨.table [⟨"t", none⟩] none ⟨[], false, []⟩ [], []⟩, [], false,
      [⟨.column [⟨"c", none⟩], .subquery (lookup "w" "x")⟩], some e, []⟩
    ∃ ns, st.conditions = .ok ns ∧ QueriesPlaced e ∧ ConditionsPlaced st ns ∧
      starts (e.marked .queries).marks = [6, 43] ∧ starts (st.marked .sites).marks = [17, 40, 49, 77, 114] := by
  intro e st
  obtain ⟨ns, hn⟩ := exists_eq_ok (x := st.conditions) (by decide +kernel)
  obtain ⟨he, hst⟩ := document_order_iff e st ns hn
  exact ⟨ns, hn, he, hst, by decide +kernel, by decide +kernel⟩

/-- Out of order: the queries and conditions of `(query) IN (query)`, and the conditions of a SELECT after its tables. -/
theorem not_document_order :
    let e : Expr := .inSubquery (.subquery (lookup "u" "b")) false (lookup "v" "c")
    let table (name : String) : Factor := .table [⟨name, none⟩] none ⟨[], false, []⟩ []
    let st : Statement := .delete ⟨[], true, [⟨table "t", []⟩], [], some e, [], []⟩
    let late : Statement := .query ⟨false, [], .select ⟨true, [], [.expr (.subquery (lookup "v" "b")) none], none,
      [⟨table "t", [⟨false, .join, table "u", none, some (.ident ⟨"a", none⟩), .none⟩]⟩], [], none, [], none, []⟩, []⟩
    let sqls (st : Statement) : Option (List String) := st.conditions.toOption.map (·.map (·.summary.sql))
    e.print = "(SELECT * FROM u WHERE b) IN (SELECT * FROM v WHERE c)" ∧
      e.nestedQueries.map Query.print = ["SELECT * FROM v WHERE c", "SELECT * FROM u WHERE b"] ∧
      ¬Sorted (e.marked .queries).marks ∧
      sqls st = some ["(SELECT * FROM u WHERE b) IN (SELECT * FROM v WHERE c)", "c", "b"] ∧
      ¬Sorted (st.marked .sites).marks ∧
      late.print = "FROM t JOIN u ON a SELECT (SELECT * FROM v WHERE b)" ∧ sqls late = some ["b", "a"] ∧
      ¬Sorted (late.marked .sites).marks := by
  decide +kernel

end SqlTemplate
