/-
Plain expressions: names, whole numbers, texts whose quotes are isolated, TRUE, FALSE, NULL, placeholders, and the
operators that need no parentheses where they stand. Names in brackets, signed and decimal numbers, calls, CASE, CAST,
tuples and nested queries are not among them. They print as texts that are read as `Expr.tokens`.
-/
import SqlTemplate.Grammar.Precedence
import SqlTemplate.Proofs.Token.Words

namespace SqlTemplate

open Grammar (Strength tokenStrength)
open Lexer (Reads identToken nameTokens isPlainIdent isolated isPlainPlaceholder)

/-! ## Tokens -/

/-- A keyword as it is printed. -/
def kw (k : String) : Token := .word ⟨k, none, some k⟩

def notTokens (negated : Bool) : List Token := if negated then [kw "NOT"] else []

def Value.tokens : Value → List Token
  | .number text _ => [.number text false]
  | .string text => [.string text]
  | .boolean b => [.word ⟨if b then "true" else "false", none, some (if b then "TRUE" else "FALSE")⟩]
  | .null => [kw "NULL"]
  | .placeholder text => [.placeholder text]
  | _ => []

def BinaryOp.token : BinaryOp → Token
  | .and => kw "AND"
  | .or => kw "OR"
  | op => .symbol op.print

/-- Tokens with commas between them. -/
def commaTokens : List (List Token) → List Token
  | [] => []
  | [a] => a
  | a :: b :: rest => a ++ .symbol "," :: commaTokens (b :: rest)

theorem exists_commaTokens_eq (a : List Token) (as : List (List Token)) : ∃ us, commaTokens (a :: as) = a ++ us := by
  cases as with
  | nil => exact ⟨[], (List.append_nil _).symm⟩
  | cons b bs => exact ⟨_, rfl⟩

mutual

/-- The tokens that a plain expression is read as. -/
def Expr.tokens : Expr → List Token
  | .ident i => [identToken i]
  | .compound parts => nameTokens parts
  | .value v => v.tokens
  | .nested e => .symbol "(" :: (e.tokens ++ [.symbol ")"])
  | .unary _ e => kw "NOT" :: e.tokens
  | .binary left op right => left.tokens ++ op.token :: right.tokens
  | .test e negated truth => e.tokens ++ kw "IS" :: (notTokens negated ++ [kw truth.print])
  | .inList e negated items =>
    e.tokens ++ (notTokens negated ++ kw "IN" :: .symbol "(" :: (commaTokens (Expr.tokensEach items) ++ [.symbol ")"]))
  | .between e negated low high =>
    e.tokens ++ (notTokens negated ++ kw "BETWEEN" :: (low.tokens ++ kw "AND" :: high.tokens))
  | .pattern e negated family _ p _ => e.tokens ++ (notTokens negated ++ kw family.print :: p.tokens)
  | _ => []

def Expr.tokensEach : List Expr → List (List Token)
  | [] => []
  | e :: es => e.tokens :: Expr.tokensEach es

end

theorem Expr.tokensEach_eq (es : List Expr) : Expr.tokensEach es = es.map Expr.tokens := by
  induction es with
  | nil => rfl
  | cons e es ih => rw [Expr.tokensEach, ih, List.map_cons]

theorem Expr.printList_eq (es : List Expr) : Expr.printList es = es.map Expr.print := by
  induction es with
  | nil => rfl
  | cons e es ih => rw [Expr.printList, ih, List.map_cons]

/-! ## Plain expressions -/

/-- Literals that are read back from their print in a dialect. -/
def Value.isPlain (d : Dialect) : Value → Bool
  | .number text long => !long && !text.toList.isEmpty && text.toList.all Char.isDigit
  | .string text => isolated '\x27' '\x00' text.toList && (d != .mysql || text.toList.all (· != '\\'))
  | .boolean _ => d != .mssql
  | .null => true
  | .placeholder text => isPlainPlaceholder d text
  | _ => false

/-- Operators that plain expressions have. -/
def BinaryOp.plain : List BinaryOp :=
  [.and, .or, .eq, .notEq, .lt, .gt, .ltEq, .gtEq, .other "+", .other "-", .other "*", .other "/", .other "%", .other "||"]

def BinaryOp.isPlain (op : BinaryOp) : Bool := BinaryOp.plain.contains op

theorem BinaryOp.mem_plain {op : BinaryOp} (h : op.isPlain = true) : op ∈ BinaryOp.plain := by
  simpa [BinaryOp.isPlain] using h

/-- How tightly an operator binds. -/
def BinaryOp.strength (d : Dialect) (op : BinaryOp) : Nat := (tokenStrength d op.token none none).toNat d

mutual

/-- How many levels of rules read an expression. -/
def Expr.levels : Expr → Nat
  | .compound parts => parts.length + 1
  | .nested e => e.levels + 1
  | .unary _ e => e.levels + 1
  | .binary left _ right => max left.levels (right.levels + 1)
  | .test e _ _ => e.levels
  | .inList e _ items => max e.levels (Expr.levelsList items + 1)
  | .between e _ low high => max e.levels (max low.levels high.levels + 1)
  | .pattern e _ _ _ p _ => max e.levels (p.levels + 1)
  | _ => 2

def Expr.levelsList : List Expr → Nat
  | [] => 0
  | e :: es => max e.levels (Expr.levelsList es)

end

/-- More than any operator binds. -/
def top : Nat := 1000

/-- How tightly the operator of an expression binds that stands outside of all others. -/
def Expr.spine (d : Dialect) : Expr → Nat
  | .binary _ op _ => op.strength d
  | .test _ _ _ => Strength.is.toNat d
  | .inList _ _ _ => Strength.between.toNat d
  | .between _ _ _ _ => Strength.between.toNat d
  | .pattern _ _ _ _ _ _ => Strength.like.toNat d
  | _ => top

/-- How tightly an operator after the expression may bind without being taken for part of it. -/
def Expr.edge (d : Dialect) : Expr → Nat
  | .unary _ e => min (Strength.unaryNot.toNat d) (e.edge d)
  | .binary _ op right => min (op.strength d) (right.edge d)
  | .between _ _ _ high => min (Strength.between.toNat d) (high.edge d)
  | .pattern _ _ _ _ p _ => min (Strength.like.toNat d) (p.edge d)
  | _ => top

/-- An expression is the left side of an operator without parentheses. -/
def Expr.isLeft (d : Dialect) (strength : Nat) (e : Expr) : Bool := strength ≤ e.spine d && strength ≤ e.edge d

mutual

/-- Expressions that are printed with all the parentheses that they need. -/
def Expr.isPlain (d : Dialect) : Expr → Bool
  | .ident i => isPlainIdent d i
  | .compound parts => 2 ≤ parts.length && parts.all (isPlainIdent d)
  | .value v => v.isPlain d
  | .nested e => e.isPlain d
  | .unary op e => op == .not && e.isPlain d && decide (Strength.unaryNot.toNat d < e.spine d)
  | .binary left op right =>
    op.isPlain && left.isPlain d && right.isPlain d && left.isLeft d (op.strength d) && decide (op.strength d < right.spine d)
  | .test e _ _ => e.isPlain d && e.isLeft d (Strength.is.toNat d)
  | .inList e _ items => e.isPlain d && !items.isEmpty && Expr.allPlain d items && e.isLeft d (Strength.between.toNat d)
  | .between e _ low high =>
    e.isPlain d && low.isPlain d && high.isPlain d && e.isLeft d (Strength.between.toNat d) &&
      decide (Strength.between.toNat d < low.spine d) && decide (Strength.and.toNat d ≤ low.edge d) &&
      decide (Strength.between.toNat d < high.spine d)
  | .pattern e _ family any p escape =>
    (family == .like || family == .iLike) && !any && escape.isNone && e.isPlain d && p.isPlain d &&
      e.isLeft d (Strength.like.toNat d) && decide (Strength.like.toNat d < p.spine d)
  | _ => false

def Expr.allPlain (d : Dialect) : List Expr → Bool
  | [] => true
  | e :: es => e.isPlain d && Expr.allPlain d es

end

theorem Expr.allPlain_iff {d : Dialect} {es : List Expr} : Expr.allPlain d es = true ↔ ∀ e ∈ es, e.isPlain d = true := by
  induction es with
  | nil => simp [Expr.allPlain]
  | cons e es ih => simp [Expr.allPlain, ih]

/-- Induction over plain expressions. -/
theorem Expr.plain_induction {d : Dialect} {P : Expr → Prop}
    (ident : ∀ i, isPlainIdent d i = true → P (.ident i))
    (compound : ∀ i j is, (∀ k ∈ i :: j :: is, isPlainIdent d k = true) → P (.compound (i :: j :: is)))
    (value : ∀ v, v.isPlain d = true → P (.value v))
    (nested : ∀ e, e.isPlain d = true → P e → P (.nested e))
    (not : ∀ e, e.isPlain d = true → P e → Strength.unaryNot.toNat d < e.spine d → P (.unary .not e))
    (binary : ∀ left op right, op.isPlain = true → right.isPlain d = true → P left → P right →
      left.isLeft d (op.strength d) = true → op.strength d < right.spine d → P (.binary left op right))
    (test : ∀ e negated truth, P e → e.isLeft d (Strength.is.toNat d) = true → P (.test e negated truth))
    (inList : ∀ e negated items, P e → items ≠ [] → (∀ i ∈ items, i.isPlain d = true ∧ P i) →
      e.isLeft d (Strength.between.toNat d) = true → P (.inList e negated items))
    (between : ∀ e negated low high, low.isPlain d = true → high.isPlain d = true → P e → P low → P high →
      e.isLeft d (Strength.between.toNat d) = true → Strength.between.toNat d < low.spine d →
      Strength.and.toNat d ≤ low.edge d → Strength.between.toNat d < high.spine d → P (.between e negated low high))
    (pattern : ∀ e negated family p, (family = .like ∨ family = .iLike) → p.isPlain d = true → P e → P p →
      e.isLeft d (Strength.like.toNat d) = true → Strength.like.toNat d < p.spine d →
      P (.pattern e negated family false p none))
    (e : Expr) (h : e.isPlain d = true) : P e := by
  induction hs : sizeOf e using Nat.strong_induction_on generalizing e with
  | _ n ih =>
    subst hs
    cases e with
    | ident i => exact ident i h
    | compound parts =>
      simp only [Expr.isPlain, Bool.and_eq_true, decide_eq_true_eq, List.all_eq_true] at h
      match parts, h with
      | i :: j :: is, ⟨_, h⟩ => exact compound i j is h
    | value v => exact value v h
    | nested e => exact nested e h (ih _ (by simp) e h rfl)
    | unary op e =>
      simp only [Expr.isPlain, Bool.and_eq_true, beq_iff_eq, decide_eq_true_eq] at h
      obtain ⟨⟨rfl, he⟩, hs⟩ := h
      exact not e he (ih _ (by simp) e he rfl) hs
    | binary left op right =>
      simp only [Expr.isPlain, Bool.and_eq_true, decide_eq_true_eq] at h
      obtain ⟨⟨⟨⟨hop, hl⟩, hr⟩, hleft⟩, hright⟩ := h
      have hsize := Expr.binary.sizeOf_spec left op right
      exact binary left op right hop hr (ih _ (by omega) left hl rfl) (ih _ (by omega) right hr rfl) hleft hright
    | test e negated truth =>
      simp only [Expr.isPlain, Bool.and_eq_true] at h
      have hsize := Expr.test.sizeOf_spec e negated truth
      exact test e negated truth (ih _ (by omega) e h.1 rfl) h.2
    | inList e negated items =>
      simp only [Expr.isPlain, Bool.and_eq_true, Bool.not_eq_true', List.isEmpty_eq_false_iff, Expr.allPlain_iff] at h
      obtain ⟨⟨⟨he, hne⟩, hall⟩, hleft⟩ := h
      have hsize := Expr.inList.sizeOf_spec e negated items
      refine inList e negated items (ih _ (by omega) e he rfl) hne (fun i hi => ⟨hall i hi, ?_⟩) hleft
      have hitem := List.sizeOf_lt_of_mem hi
      exact ih _ (by omega) i (hall i hi) rfl
    | between e negated low high =>
      simp only [Expr.isPlain, Bool.and_eq_true, decide_eq_true_eq] at h
      obtain ⟨⟨⟨⟨⟨⟨he, hl⟩, hh⟩, hleft⟩, h1⟩, h2⟩, h3⟩ := h
      have hsize := Expr.between.sizeOf_spec e negated low high
      exact between e negated low high hl hh (ih _ (by omega) e he rfl) (ih _ (by omega) low hl rfl)
        (ih _ (by omega) high hh rfl) hleft h1 h2 h3
    | pattern e negated family any p escape =>
      simp only [Expr.isPlain, Bool.and_eq_true, Bool.or_eq_true, beq_iff_eq, Bool.not_eq_true', Option.isNone_iff_eq_none,
        decide_eq_true_eq] at h
      obtain ⟨⟨⟨⟨⟨⟨hf, rfl⟩, rfl⟩, he⟩, hp⟩, hleft⟩, h1⟩ := h
      have hsize := Expr.pattern.sizeOf_spec e negated family false p none
      exact pattern e negated family p hf hp (ih _ (by omega) e he rfl) (ih _ (by omega) p hp rfl) hleft h1
    | _ => cases h

theorem Expr.levels_pos {d : Dialect} {e : Expr} (h : e.isPlain d = true) : 0 < e.levels := by
  refine Expr.plain_induction (P := fun e => 0 < e.levels) ?ident ?compound ?value ?nested ?not ?binary ?test ?inList ?between
    ?pattern e h
  all_goals
    intros
    simp only [Expr.levels]
    omega

theorem Expr.levels_le_levelsList {e : Expr} {es : List Expr} (h : e ∈ es) : e.levels ≤ Expr.levelsList es := by
  induction es with
  | nil => cases h
  | cons f es ih =>
    rw [Expr.levelsList]
    rcases List.mem_cons.1 h with rfl | h
    · exact Nat.le_max_left _ _
    · exact Nat.le_trans (ih h) (Nat.le_max_right _ _)

theorem BinaryOp.strength_pos (d : Dialect) {op : BinaryOp} (h : op.isPlain = true) : 0 < op.strength d := by
  have hall : ∀ op ∈ BinaryOp.plain, 0 < op.strength d := by cases d <;> decide
  exact hall op (BinaryOp.mem_plain h)

theorem Expr.spine_pos {d : Dialect} {e : Expr} (h : e.isPlain d = true) : 0 < e.spine d := by
  cases e with
  | binary left op right =>
    simp only [Expr.isPlain, Bool.and_eq_true] at h
    exact BinaryOp.strength_pos d h.1.1.1.1
  | test | inList | between | pattern => cases d <;> simp [Expr.spine, Strength.toNat, Strength.common, Strength.postgresql]
  | _ => simp [Expr.spine, top]

/-! ## First tokens -/

/-- Keywords that a plain expression may begin with. -/
def openingKeywords : List String := ["NOT", "TRUE", "FALSE", "NULL"]

/-- Tokens that a plain expression may begin with. -/
def opens : Token → Bool
  | .word w => w.keyword.all openingKeywords.contains
  | .number _ _ => true
  | .string _ => true
  | .placeholder _ => true
  | .symbol s => s == "("
  | _ => false

theorem Expr.exists_tokens_eq_cons {d : Dialect} {e : Expr} (h : e.isPlain d = true) : ∃ t ts, e.tokens = t :: ts ∧ opens t = true := by
  have happend : ∀ {e : Expr} {us : List Token}, (∃ t ts, e.tokens = t :: ts ∧ opens t = true) →
      ∃ t ts, e.tokens ++ us = t :: ts ∧ opens t = true := by
    rintro e us ⟨t, ts, he, ho⟩
    exact ⟨t, ts ++ us, by rw [he, List.cons_append], ho⟩
  refine Expr.plain_induction (P := fun e => ∃ t ts, e.tokens = t :: ts ∧ opens t = true) ?ident ?compound ?value ?nested ?not
    ?binary ?test ?inList ?between ?pattern e h
  case ident => intro i _; exact ⟨_, _, by rw [Expr.tokens], rfl⟩
  case compound => intro i j is _; exact ⟨_, _, by rw [Expr.tokens, nameTokens], rfl⟩
  case value =>
    intro v hv
    rw [Expr.tokens]
    cases v with
    | boolean b => cases b <;> exact ⟨_, _, rfl, rfl⟩
    | number | string | null | placeholder => exact ⟨_, _, rfl, rfl⟩
    | _ => cases hv
  case nested => intro e _ _; exact ⟨_, _, by rw [Expr.tokens], rfl⟩
  case not => intro e _ _ _; exact ⟨_, _, by rw [Expr.tokens], rfl⟩
  case binary => intro left op right _ _ ih _ _ _; rw [Expr.tokens]; exact happend ih
  case test => intro e _ _ ih _; rw [Expr.tokens]; exact happend ih
  case inList => intro e _ _ ih _ _ _; rw [Expr.tokens]; exact happend ih
  case between => intro e _ _ _ _ _ ih _ _ _ _ _ _; rw [Expr.tokens]; exact happend ih
  case pattern => intro e _ _ _ _ _ ih _ _ _; rw [Expr.tokens]; exact happend ih

/-! ## Printed texts -/

/-- The text is read as these tokens, blanks left out, whatever stands around it. -/
def Prints (d : Dialect) (text : String) (tokens : List Token) : Prop :=
  ∃ ts, Reads d text.toList ts ∧ ts.filter (fun t => !t.isBlank) = tokens

namespace Prints

variable {d : Dialect} {x y : String} {a b : List Token}

theorem of_reads {t : Token} (h : Reads d x.toList [t]) (ht : t.isBlank = false) : Prints d x [t] :=
  ⟨[t], h, by simp [ht]⟩

theorem blank (hx : Prints d x a) (hy : Prints d y b) : Prints d (x ++ " " ++ y) (a ++ b) := by
  obtain ⟨ts, ht, rfl⟩ := hx
  obtain ⟨us, hu, rfl⟩ := hy
  refine ⟨ts ++ .blank :: us, ?_, by simp [Token.isBlank]⟩
  have h := ht.append (b := ' ') rfl hu
  simpa using h

theorem comma (hx : Prints d x a) (hy : Prints d y b) : Prints d (x ++ ", " ++ y) (a ++ .symbol "," :: b) := by
  obtain ⟨ts, ht, rfl⟩ := hx
  obtain ⟨us, hu, rfl⟩ := hy
  refine ⟨ts ++ .symbol "," :: .blank :: us, ?_, by simp [Token.isBlank]⟩
  have h := ht.append (b := ',') rfl ((Reads.nil d).append (b := ' ') rfl hu)
  simpa using h

theorem parens (hx : Prints d x a) : Prints d ("(" ++ x ++ ")") (.symbol "(" :: (a ++ [.symbol ")"])) := by
  obtain ⟨ts, ht, rfl⟩ := hx
  refine ⟨.symbol "(" :: (ts ++ [.symbol ")"]), ?_, by simp [Token.isBlank]⟩
  have h := (Reads.nil d).append (b := '(') rfl (ht.append (b := ')') rfl (.nil d))
  simpa using h

end Prints

/-- Keywords of plain statements. -/
def plainKeywords : List String :=
  ["AND", "OR", "NOT", "IS", "NULL", "TRUE", "FALSE", "UNKNOWN", "IN", "BETWEEN", "LIKE", "ILIKE", "SELECT", "FROM", "WHERE",
   "AS", "ON", "JOIN", "INNER", "LEFT", "OUTER", "RIGHT", "FULL", "CROSS", "UPDATE", "SET", "DELETE",
   "USING"]

theorem prints_kw (d : Dialect) {k : String} (h : k ∈ plainKeywords) : Prints d k [kw k] := by
  have hall : ∀ k ∈ plainKeywords, Lexer.isPlainWord k.toList = true ∧ Token.plainWord k.toList = kw k := by decide +kernel
  obtain ⟨hw, ht⟩ := hall k h
  have hr := Lexer.reads_word (d := d) hw
  rw [ht] at hr
  exact .of_reads hr rfl

theorem prints_name {d : Dialect} {name : ObjectName} (hne : name ≠ []) (h : ∀ i ∈ name, isPlainIdent d i = true) :
    Prints d name.print (nameTokens name) := by
  refine ⟨nameTokens name, Lexer.reads_name hne h, List.filter_eq_self.2 ?_⟩
  clear h hne
  induction name with
  | nil => simp [nameTokens]
  | cons i is ih =>
    cases is with
    | nil => simp [nameTokens, identToken, Token.isBlank]
    | cons j is => simpa [nameTokens, identToken, Token.isBlank] using ih

theorem prints_ident {d : Dialect} {i : Ident} (h : isPlainIdent d i = true) : Prints d i.print [identToken i] := by
  have hn : Prints d (ObjectName.print [i]) (nameTokens [i]) := prints_name (by simp) (by simpa using h)
  have hp : ObjectName.print [i] = i.print := by simp [ObjectName.print, Text.join]
  rwa [hp] at hn

theorem prints_value {d : Dialect} {v : Value} (h : v.isPlain d = true) : Prints d v.print v.tokens := by
  cases v with
  | number text long =>
    simp only [Value.isPlain, Bool.and_eq_true, Bool.not_eq_true', List.isEmpty_eq_false_iff, List.all_eq_true] at h
    obtain ⟨⟨rfl, hne⟩, hd⟩ := h
    have hr := Lexer.reads_number (d := d) hne hd
    rw [String.ofList_toList] at hr
    have hp : Value.print (.number text false) = text := by simp [Value.print]
    rw [hp]
    exact .of_reads hr rfl
  | string text =>
    simp only [Value.isPlain, Bool.and_eq_true, Bool.or_eq_true, bne_iff_ne, List.all_eq_true] at h
    refine .of_reads (Lexer.reads_string h.1 fun hd => ?_) rfl
    rcases h.2 with hm | hm
    · exact absurd hd hm
    · exact hm
  | boolean b =>
    have hword : ∀ k ∈ ["true", "false"], Lexer.isPlainWord k.toList = true := by decide
    cases b with
    | true =>
      have ht : Token.plainWord "true".toList = .word ⟨"true", none, some "TRUE"⟩ := by decide +kernel
      have hr := Lexer.reads_word (d := d) (hword "true" (by simp))
      rw [ht] at hr
      exact .of_reads hr rfl
    | false =>
      have ht : Token.plainWord "false".toList = .word ⟨"false", none, some "FALSE"⟩ := by decide +kernel
      have hr := Lexer.reads_word (d := d) (hword "false" (by simp))
      rw [ht] at hr
      exact .of_reads hr rfl
  | null => exact prints_kw d (by decide)
  | placeholder text => exact .of_reads (Lexer.reads_placeholder h) rfl
  | _ => cases h

theorem prints_op (d : Dialect) {op : BinaryOp} (h : op.isPlain = true) : Prints d op.print [op.token] := by
  have hall : ∀ op ∈ BinaryOp.plain, op.print ∈ plainKeywords ∧ op.token = kw op.print ∨
      op.print ∈ Lexer.plainOperators ∧ op.token = .symbol op.print := by decide
  rcases hall op (BinaryOp.mem_plain h) with ⟨hp, ht⟩ | ⟨hp, ht⟩
  · rw [ht]
    exact prints_kw d hp
  · rw [ht]
    exact .of_reads (Lexer.reads_operator d hp) rfl

/-- The same tokens for the same text, however it is put together. -/
theorem Prints.congr {d : Dialect} {x y : String} {a b : List Token} (h : Prints d x a) (hx : y.toList = x.toList)
    (ha : a = b) : Prints d y b := by
  rwa [String.toList_inj.1 hx, ← ha]

theorem prints_not {d : Dialect} (negated : Bool) {x : String} {a : List Token} (h : Prints d x a) :
    Prints d (notWord negated ++ x) (notTokens negated ++ a) := by
  cases negated with
  | false => exact h.congr (by simp [notWord]) rfl
  | true => exact ((prints_kw d (k := "NOT") (by decide)).blank h).congr (by simp [notWord]) rfl

theorem prints_commas {α : Type} {d : Dialect} {f : α → String} {g : α → List Token} {items : List α} (hne : items ≠ [])
    (h : ∀ i ∈ items, Prints d (f i) (g i)) : Prints d (Text.commas (items.map f)) (commaTokens (items.map g)) := by
  induction items with
  | nil => exact absurd rfl hne
  | cons i is ih =>
    have hi := h i List.mem_cons_self
    cases is with
    | nil => exact hi.congr (by simp [Text.commas, Text.join]) rfl
    | cons j is =>
      have his := ih (by simp) fun k hk => h k (List.mem_cons_of_mem _ hk)
      have hc : Text.commas ((i :: j :: is).map f) = f i ++ ", " ++ Text.commas ((j :: is).map f) := by
        exact String.intercalate_cons_cons
      rw [hc]
      exact hi.comma his

/-- A plain expression prints as its tokens. -/
theorem prints_expr {d : Dialect} {e : Expr} (h : e.isPlain d = true) : Prints d e.print e.tokens := by
  refine Expr.plain_induction (P := fun e => Prints d e.print e.tokens) ?ident ?compound ?value ?nested ?not ?binary ?test
    ?inList ?between ?pattern e h
  case ident => intro i hi; rw [Expr.print, Expr.tokens]; exact prints_ident hi
  case compound => intro i j is h; rw [Expr.print, Expr.tokens]; exact prints_name (by simp) h
  case value => intro v hv; rw [Expr.print, Expr.tokens]; exact prints_value hv
  case nested => intro e _ ih; rw [Expr.print, Expr.tokens]; exact ih.parens
  case not =>
    intro e _ ih _
    rw [Expr.print, Expr.tokens]
    exact ((prints_kw d (k := "NOT") (by decide)).blank ih).congr (by simp [printUnary]) rfl
  case binary =>
    intro left op right hop _ ihl ihr _ _
    rw [Expr.print, Expr.tokens]
    exact ((ihl.blank (prints_op d hop)).blank ihr).congr rfl (by simp)
  case test =>
    intro e negated truth ih _
    rw [Expr.print, Expr.tokens]
    have ht : Prints d truth.print [kw truth.print] := prints_kw d (by cases truth <;> decide)
    exact ((ih.blank (prints_kw d (k := "IS") (by decide))).blank (prints_not negated ht)).congr (by simp) (by simp)
  case inList =>
    intro e negated items ih hne hitems _
    rw [Expr.print, Expr.tokens]
    have hl := (prints_commas hne fun i hi => (hitems i hi).2).parens
    have hin := prints_not negated ((prints_kw d (k := "IN") (by decide)).blank hl)
    exact (ih.blank hin).congr (by simp [Expr.printList_eq]) (by simp [Expr.tokensEach_eq])
  case between =>
    intro e negated low high _ _ ih ihl ihh _ _ _ _
    rw [Expr.print, Expr.tokens]
    have hb := ((prints_kw d (k := "BETWEEN") (by decide)).blank ihl).blank ((prints_kw d (k := "AND") (by decide)).blank ihh)
    exact (ih.blank (prints_not negated hb)).congr (by simp) (by simp)
  case pattern =>
    intro e negated family p hf _ ih ihp _ _
    rw [Expr.print, Expr.tokens]
    have hk : Prints d family.print [kw family.print] := by rcases hf with rfl | rfl <;> exact prints_kw d (by decide)
    exact (ih.blank (prints_not negated (hk.blank ihp))).congr (by rcases hf with rfl | rfl <;> simp [anyWord]) (by simp)

end SqlTemplate
