/-
Queries: the WITH list, a body of SELECTs, VALUES lists and parenthesised queries combined by set
operators, and the clauses that belong to the whole. The body may also be a statement that changes
rows.
-/
import SqlTemplate.Grammar.Change

namespace SqlTemplate.Grammar

open SqlTemplate.Grammar.Parser

/-! ## WITH -/

def materialized (d : Dialect) : Parser (Option Bool) := do
  if d == .postgresql then
    if ← takeKeyword "MATERIALIZED" then return some true
    else if ← takeKeywords ["NOT", "MATERIALIZED"] then return some false
    else return none
  else return none

def cte (d : Dialect) (r : Rules) : Parser Cte := do
  let name ← ident
  let columns ← if ← nextIsKeyword "AS" then pure [] else aliasColumns r
  expectKeyword "AS"
  let m ← materialized d
  let q ← parenthesized r.query
  return ⟨⟨name, columns⟩, m, q, ← afterKeyword "FROM" ident⟩

/-! ## Bodies -/

/-- `TABLE name`: always three tokens, of which the last two matter only if a period is between them. -/
def tableBody : Parser SetExpr := do
  let third ← peekAt 2
  match ← peek, ← peekAt 1 with
  | some (.word w), some (.symbol ".") =>
    match third with
    | some (.word v) => skip; skip; skip; return .table (w.text ++ "." ++ v.text)
    | _ => skip; skip; unexpected
  | some (.word w), _ => skip; skip; skip; return .table w.text
  | _, _ => unexpected

def simpleBody (d : Dialect) (r : Rules) : Parser SetExpr := do
  match ← peekKeyword with
  | some "SELECT" => return .select (← select d r)
  | some "FROM" => if d == .generic then return .select (← select d r) else unexpected
  | some "VALUES" => skip; valuesBody r (d == .mysql)
  | some "TABLE" => skip; tableBody
  | _ =>
    if ← nextIsSymbol "(" then return .query (← parenthesized r.query)
    else unexpected

def setOperator? (k : Option String) : Option SetOperator :=
  match k with
  | some "UNION" => some .union
  | some "EXCEPT" => some .except
  | some "INTERSECT" => some .intersect
  | some "MINUS" => some .minus
  | _ => none

def bindsTighter (op : SetOperator) : Bool := op == .intersect

/-- How a set operator treats duplicates, as it is printed. -/
def setQuantifier : Parser String := do
  if ← takeKeywords ["DISTINCT", "BY", "NAME"] then return "DISTINCT BY NAME"
  else if ← takeKeywords ["BY", "NAME"] then return "BY NAME"
  else if ← takeKeyword "ALL" then
    if ← takeKeywords ["BY", "NAME"] then return "ALL BY NAME" else return "ALL"
  else if ← takeKeyword "DISTINCT" then return "DISTINCT"
  else return ""

/-- Set operators that `accepts` lets through, each with an operand read by `next` on its right. -/
def setLoop (accepts : SetOperator → Bool) (next : Parser SetExpr) (left : SetExpr) : Nat → Parser SetExpr
  | 0 => return left
  | n + 1 => do
    match setOperator? (← peekKeyword) with
    | some op =>
      if accepts op then
        skip
        let quantifier ← setQuantifier
        setLoop accepts next (.operation left op quantifier (← next)) n
      else return left
    | none => return left

def intersections (d : Dialect) (r : Rules) : Parser SetExpr := do
  let left ← simpleBody d r
  setLoop bindsTighter (simpleBody d r) left (← remaining)

def body (d : Dialect) (r : Rules) : Parser SetExpr := do
  let left ← intersections d r
  setLoop (fun _ => true) (intersections d r) left (← remaining)

/-! ## Clauses of the whole query -/

/-- The value of a column in the rows that fill gaps. -/
def interpolation (r : Rules) : Parser Passage := do
  let column ← ident
  return .words column.print ++ (← keyedExpr "AS" r)

/-- The columns that get a value in the rows that fill gaps. -/
def interpolations (d : Dialect) (r : Rules) : Parser (List Clause) := do
  if ← takeWhere (d == .generic) (takeKeyword "INTERPOLATE") then
    if ← nextIsSymbol "(" then
      let items ← parenthesized (commaListUntil ")" (interpolation r))
      return [(Passage.words "INTERPOLATE (" ++ .commas items ++ .words ")").clause]
    else return [⟨.words "INTERPOLATE", []⟩]
  else return []

def orderBy (d : Dialect) (r : Rules) : Parser (List Clause) := do
  if ← takeKeywords ["ORDER", "BY"] then
    let order ← sortKeys d r
    return order.clause .orderBy :: (← interpolations d r)
  else return []

def offset (r : Rules) : Parser (Option Clause) :=
  afterKeyword "OFFSET" do
    let e ← r.full
    match ← takeOneOf ["ROW", "ROWS"] with
    | some k => return ⟨.offset (" " ++ k), [e]⟩
    | none => return ⟨.offset "", [e]⟩

/-- Dialects in which LIMIT may give an offset and a count. -/
def limitPairs (d : Dialect) : Bool := d == .mysql || d == .generic || d == .sqlite

/-- LIMIT, OFFSET and, in one dialect, LIMIT BY. -/
def limits (d : Dialect) (r : Rules) : Parser (List Clause) := do
  let early ← offset r
  if ← takeKeyword "LIMIT" then
    let count ← if ← takeKeyword "ALL" then pure none else pure (some (← r.full))
    match count with
    | some e =>
      if ← takeWhere (limitPairs d && early.isNone) (takeSymbol ",") then return [⟨.limitPair, [e, ← r.full]⟩]
    | none => pure ()
    let by_ ←
      if d == .generic then afterKeyword "BY" (do return ⟨.limitBy, ← commaList r.full⟩) else pure none
    let late ← if early.isNone then offset r else pure early
    return (count.toList.map fun e => ⟨.limit, [e]⟩) ++ late.toList ++ by_.toList
  else return early.toList

def fetch (d : Dialect) : Parser (Option Clause) :=
  afterKeyword "FETCH" do
    discard (takeOneOf ["FIRST", "NEXT"])
    let rows ← takeOneOf ["ROW", "ROWS"]
    let (quantity, percent) ←
      if rows.isSome then pure (none, false)
      else
        let q ← value d
        let percent ← takeKeyword "PERCENT"
        discard (takeOneOf ["ROW", "ROWS"])
        pure (some q, percent)
    let withTies ← if ← takeKeyword "ONLY" then pure false else takeKeywords ["WITH", "TIES"]
    return ⟨.fetch ⟨quantity, percent, withTies⟩, []⟩

def lock (d : Dialect) : Parser Clause := do
  let update := (← expectOneOf ["UPDATE", "SHARE"]) == "UPDATE"
  let target ← afterKeyword "OF" (objectName d)
  let wait ←
    if ← takeKeyword "NOWAIT" then pure (some "NOWAIT")
    else if ← takeKeywords ["SKIP", "LOCKED"] then pure (some "SKIP LOCKED")
    else pure none
  return ⟨.lock ⟨update, target, wait⟩, []⟩

/-- A name in parentheses, or nothing. -/
def elementName (d : Dialect) : Parser String := do
  if ← nextIsSymbol "(" then return "('" ++ (← parenthesized (literalString d)) ++ "')" else return ""

/-- The options of rows in a document, in the order in which they are printed. -/
structure RowOptions where
  binary : Bool
  typed : Bool
  root : Option String
  elements : Bool
  nulls : Bool
  unwrapped : Bool

def RowOptions.print (o : RowOptions) : String :=
  Form.optional o.binary ", BINARY BASE64" ++ Form.optional o.typed ", TYPE" ++
    (match o.root with | some name => ", ROOT('" ++ name ++ "')" | none => "") ++
    Form.optional o.elements ", ELEMENTS" ++ Form.optional o.nulls ", INCLUDE_NULL_VALUES" ++
    Form.optional o.unwrapped ", WITHOUT_ARRAY_WRAPPER"

def rootName (d : Dialect) : Parser String := parenthesized (literalString d)

def xmlOption (d : Dialect) (o : RowOptions) : Parser RowOptions := do
  match ← takeOneOf ["ELEMENTS", "BINARY", "ROOT", "TYPE"] with
  | some "ELEMENTS" => return { o with elements := true }
  | some "BINARY" => expectKeyword "BASE64"; return { o with binary := true }
  | some "ROOT" => return { o with root := some (← rootName d) }
  | some _ => return { o with typed := true }
  | none => return o

def jsonOption (d : Dialect) (o : RowOptions) : Parser RowOptions := do
  match ← takeOneOf ["ROOT", "INCLUDE_NULL_VALUES", "WITHOUT_ARRAY_WRAPPER"] with
  | some "ROOT" => return { o with root := some (← rootName d) }
  | some "INCLUDE_NULL_VALUES" => return { o with nulls := true }
  | some _ => return { o with unwrapped := true }
  | none => return o

/-- Options, each after a comma; a comma alone counts for nothing. -/
def optionLoop (next : RowOptions → Parser RowOptions) (o : RowOptions) : Nat → Parser RowOptions
  | 0 => return o
  | n + 1 => do
    if ← takeSymbol "," then optionLoop next (← next o) n else return o

def noOptions : RowOptions := ⟨false, false, none, false, false, false⟩

/-- The form in which rows are given back, as it is printed; nothing if a lock is meant. -/
def rowFormat (d : Dialect) : Parser (Option String) := do
  match ← takeOneOf ["BROWSE", "XML", "JSON"] with
  | none => return none
  | some "BROWSE" => return some "BROWSE"
  | some "XML" =>
    match ← takeOneOf ["RAW", "AUTO", "EXPLICIT", "PATH"] with
    | none => failAt none
    | some mode =>
      let name ← if mode == "RAW" || mode == "PATH" then elementName d else pure ""
      let options ← optionLoop (xmlOption d) noOptions (← remaining)
      return some ("XML " ++ mode ++ name ++ options.print)
  | some _ =>
    match ← takeOneOf ["AUTO", "PATH"] with
    | none => failAt none
    | some mode =>
      let options ← optionLoop (jsonOption d) noOptions (← remaining)
      return some ("JSON " ++ mode ++ options.print)

def forLoop (d : Dialect) : Nat → Parser (List Clause)
  | 0 => return []
  | n + 1 => do
    if ← takeKeyword "FOR" then
      match ← rowFormat d with
      | some text => return [⟨.forWords text, []⟩]
      | none =>
        let c ← lock d
        return c :: (← forLoop d n)
    else return []

/-- Settings of the query. -/
def settings (d : Dialect) : Parser (List Clause) := do
  if ← takeWhere (d == .generic) (takeKeyword "SETTINGS") then
    let items ← commaList do
      let key ← ident
      expectSymbol "="
      return key.print ++ " = " ++ (← value d).print
    return [⟨.words ("SETTINGS " ++ Text.commas items), []⟩]
  else return []

def outputFormat (d : Dialect) : Parser (Option Clause) := do
  if d == .generic then
    afterKeyword "FORMAT" do
      if ← takeKeyword "NULL" then return ⟨.words "FORMAT NULL", []⟩
      else return ⟨.words ("FORMAT " ++ (← ident).print), []⟩
  else return none

/-- All that may follow the body of a query. -/
def queryClauses (d : Dialect) (r : Rules) : Parser (List Clause) := do
  let order ← orderBy d r
  let limit ← limits d r
  let set ← settings d
  let rows ← fetch d
  let locks ← forLoop d (← remaining)
  let format ← outputFormat d
  return order ++ limit ++ set ++ rows.toList ++ locks ++ format.toList

/-! ## Queries -/

def query (d : Dialect) (r : Rules) : Parser Query := do
  let hasWith ← takeKeyword "WITH"
  let recursive ← if hasWith then takeKeyword "RECURSIVE" else pure false
  let ctes ← if hasWith then commaList (cte d r) else pure []
  if ← takeKeyword "INSERT" then return ⟨recursive, ctes, .insert (← insert d r "INSERT"), []⟩
  else if ← takeKeyword "UPDATE" then return ⟨recursive, ctes, .update (← update d r), []⟩
  else if ← takeKeyword "DELETE" then return ⟨recursive, ctes, .delete (← delete d r), []⟩
  else
    let b ← body d r
    return ⟨recursive, ctes, b, ← queryClauses d r⟩

end SqlTemplate.Grammar
