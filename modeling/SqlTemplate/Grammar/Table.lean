/-
Tables of a statement: named tables, functions that yield rows, queries and joins in parentheses,
their aliases, and the joins between them.
-/
import SqlTemplate.Grammar.Expr

namespace SqlTemplate.Grammar

open SqlTemplate.Grammar.Parser

/-! ## Aliases -/

/-- An alias after AS, or a word that `accepts` allows for one without it. -/
def alias? (accepts : Option String → Bool) : Parser (Option Ident) := do
  let explicit ← takeKeyword "AS"
  match ← peek with
  | some (.word w) => if explicit || accepts w.keyword then skip; return some w.toIdent else return none
  | some (.string s) => skip; return some ⟨s, some '\x27'⟩
  | some (.doubleQuoted s) => skip; return some ⟨s, some '"'⟩
  | _ => if explicit then unexpected else return none

/-- Words that introduce index hints or a join in the dialect that has them. -/
def hintWords : List String := ["USE", "IGNORE", "FORCE", "STRAIGHT_JOIN"]

def isTableAlias (d : Dialect) (k : Option String) : Bool :=
  match k with
  | none => true
  | some k => !Keyword.notTableAlias.contains k && !(d == .mysql && hintWords.contains k)

def isColumnAlias (d : Dialect) (k : Option String) : Bool :=
  match k with
  | none => true
  | some k => !Keyword.notColumnAlias.contains k && !(d == .mssql && (k == "IF" || k == "ELSE"))

def aliasColumn (r : Rules) : Parser AliasColumn := do
  let name ← ident
  return ⟨name, ← attempt r.dataType⟩

/-- Column names in parentheses after an alias, or nothing. -/
def aliasColumns (r : Rules) : Parser (List AliasColumn) := do
  if ← nextIsSymbol "(" then parenthesized (commaList (aliasColumn r)) else return []

def tableAlias (d : Dialect) (r : Rules) : Parser (Option TableAlias) := do
  match ← alias? (isTableAlias d) with
  | some name => return some ⟨name, ← aliasColumns r⟩
  | none => return none

/-! ## Named tables -/

/-- The clause that an index hint is meant for, as it is printed. -/
def hintTarget : Parser String := do
  if ← takeKeyword "FOR" then
    if ← takeKeyword "JOIN" then return "FOR JOIN "
    else if ← takeKeywords ["ORDER", "BY"] then return "FOR ORDER BY "
    else if ← takeKeywords ["GROUP", "BY"] then return "FOR GROUP BY "
    else unexpected
  else return ""

def indexHint : Parser (Option String) := do
  match ← takeOneOf ["USE", "IGNORE", "FORCE"] with
  | none => return none
  | some action =>
    let kind ← expectOneOf ["INDEX", "KEY"]
    let target ← hintTarget
    let names ← parenthesized (commaListUntil ")" ident)
    return some (action ++ " " ++ kind ++ " " ++ target ++ "(" ++ Text.commas (names.map Ident.print) ++ ")")

/-- Arguments of a function that yields rows, after the opening parenthesis. -/
def tableArgs (d : Dialect) (r : Rules) : Parser (List Arg) := do
  if ← takeSymbol ")" then return []
  let args ← commaList (arg d r)
  expectSymbol ")"
  return args

/-- Hints in parentheses after WITH. -/
def tableHints (r : Rules) : Parser (List Clause) := do
  match ← peekKeyword, ← peekAt 1 with
  | some "WITH", some (.symbol "(") =>
    skip
    let hints ← parenthesized (commaList r.full)
    return [⟨.tableHints, hints⟩]
  | _, _ => return []

/-- The moment that a table is read as of, in the dialect that keeps old rows. -/
def tableVersion (d : Dialect) (r : Rules) : Parser (List Clause) := do
  if d != .mssql then return []
  else if ← takeKeywords ["FOR", "SYSTEM_TIME", "AS", "OF"] then
    return [(Passage.words "FOR SYSTEM_TIME AS OF " ++ .expr (← r.full)).clause]
  else if (← nextIsKeyword "AT") || (← nextIsKeyword "BEFORE") then
    let name ← objectName d
    return [(Passage.expr (← plainCall d r name)).clause]
  else return []

/-- One bucket of several, after the word BUCKET. -/
def sampleBucket (d : Dialect) (r : Rules) : Parser Passage := do
  let chosen ← numberValue d
  expectKeywords ["OUT", "OF"]
  let total ← numberValue d
  return .words ("BUCKET " ++ chosen.print ++ " OUT OF " ++ total.print) ++ (← keyedExpr "ON" r)

/-- How much of a table is sampled: an expression, or a word in its place. -/
def sampleQuantity (r : Rules) : Parser Passage := do
  let quantity ←
    match ← attempt r.full with
    | some e => pure (.expr e)
    | none =>
      match ← peek with
      | some (.word w) => skip; pure (.words w.text)
      | _ => skip; unexpected
  match ← takeOneOf ["ROWS", "PERCENT"] with
  | some unit => return quantity ++ .words (" " ++ unit)
  | none => return quantity

def sampleSeed (d : Dialect) : Parser Passage := do
  match ← takeOneOf ["REPEATABLE", "SEED"] with
  | some k => return .words (" " ++ k ++ " (" ++ (← parenthesized (numberValue d)).print ++ ")")
  | none => return .words ""

/-- The part of a table that is read. -/
def tableSample (d : Dialect) (r : Rules) : Parser (List Clause) := do
  match ← takeOneOf ["TABLESAMPLE", "SAMPLE"] with
  | none => return []
  | some k =>
    let method := match ← takeOneOf ["BERNOULLI", "ROW", "SYSTEM", "BLOCK"] with | some m => " " ++ m | none => ""
    let isNested ← takeSymbol "("
    let bucket ← takeWhere isNested (takeKeyword "BUCKET")
    let part ← if bucket then sampleBucket d r else sampleQuantity r
    if isNested then expectSymbol ")"
    let part := if isNested then .words " (" ++ part ++ .words ")" else .words " " ++ part
    let seed ← sampleSeed d
    let offset ← keyedExpr "OFFSET" r
    return [(Passage.words (k ++ method) ++ (if bucket then seed ++ part else part ++ seed) ++ offset).clause]

def namedTable (d : Dialect) (r : Rules) : Parser Factor := do
  let name ← objectName d
  let partitions ←
    if ← takeWhere (d == .mysql || d == .generic) (takeKeyword "PARTITION") then parenthesized (commaList ident) else pure []
  let version ← tableVersion d r
  let args ← if ← takeSymbol "(" then pure (some (← tableArgs d r)) else pure none
  let ordinality ← takeKeywords ["WITH", "ORDINALITY"]
  let aliasName ← tableAlias d r
  let hints ← if d == .mysql then pure ((← attempt (many indexHint)).getD []) else pure []
  let hinted ← tableHints r
  let clauses := hinted ++ version ++ (← tableSample d r)
  let details : TableDetails := ⟨partitions, ordinality, hints⟩
  match args with
  | some args => return .tableCall name args aliasName details clauses
  | none => return .table name aliasName details clauses

/-! ## Rows turned to columns and back -/

/-- An aggregate and its name, if it has one. -/
def pivotCall (d : Dialect) (r : Rules) : Parser Passage := do
  match ← peek with
  | some (.word w) => skip; withName (← plainCall d r [⟨w.text, none⟩])
  | _ => skip; unexpected

def aliasedExpr (r : Rules) : Parser Passage := do withName (← r.full)

/-- The values that become columns, in parentheses. -/
def pivotValues (d : Dialect) (r : Rules) : Parser Passage :=
  parenthesized do
    if ← takeKeyword "ANY" then
      if ← takeKeywords ["ORDER", "BY"] then
        return .words "(ANY ORDER BY " ++ (← sortKeys d r).passage ++ .words ")"
      else return .words "(ANY)"
    else if (← nextIsKeyword "SELECT") || (← nextIsKeyword "WITH") then return .expr (.subquery (← r.query))
    else return .words "(" ++ .commas (← commaList (aliasedExpr r)) ++ .words ")"

def pivot (d : Dialect) (r : Rules) : Parser Passage := do
  expectSymbol "("
  let calls ← commaList (pivotCall d r)
  expectKeyword "FOR"
  let column ← nameLoop ((← remaining) + 1)
  expectKeyword "IN"
  let values ← pivotValues d r
  let default ←
    if ← takeKeywords ["DEFAULT", "ON", "NULL"] then
      pure (.words " DEFAULT ON NULL (" ++ .expr (← parenthesized r.full) ++ .words ")")
    else pure (.words "")
  expectSymbol ")"
  return .words "PIVOT(" ++ .commas calls ++ .words (" FOR " ++ column.print ++ " IN ") ++ values ++ default ++ .words ")"

def unpivot : Parser Passage := do
  let nulls ←
    match ← takeOneOf ["INCLUDE", "EXCLUDE"] with
    | some k => expectKeyword "NULLS"; pure (" " ++ k ++ " NULLS ")
    | none => pure ""
  expectSymbol "("
  let v ← ident
  expectKeyword "FOR"
  let name ← ident
  expectKeyword "IN"
  let columns ← columnList false
  expectSymbol ")"
  return .words ("UNPIVOT" ++ nulls ++ "(" ++ v.print ++ " FOR " ++ name.print ++ " IN (" ++
    Text.commas (columns.map Ident.print) ++ "))")

/-- A relation and the turns that follow it, each with an alias of its own. -/
def turned (d : Dialect) (r : Rules) (f : Factor) : Nat → Parser Factor
  | 0 => return f
  | n + 1 => do
    match ← takeOneOf ["PIVOT", "UNPIVOT"] with
    | none => return f
    | some k =>
      let turn ← if k == "PIVOT" then pivot d r else unpivot
      let aliasName ← tableAlias d r
      turned d r (.turned f turn.clause aliasName) n

/-! ## Rows that match a pattern -/

/-- How often a part of a pattern is repeated: a number of at most 32 bits. -/
def repetitionCount : Parser Nat := do
  match ← peek with
  | some (.number text _) =>
    match Error.number? text.toList with
    | some n => if n < 4294967296 then skip; return n else unexpected
    | none => unexpected
  | _ => unexpected

/-- The bounds of a repetition, after the opening brace. -/
def repetitionRange : Parser String := do
  let bounds ←
    if ← takeSymbol "," then pure ("," ++ toString (← repetitionCount))
    else
      let least ← repetitionCount
      if ← takeSymbol "," then
        let most ← if ← nextIsSymbol "\x7d" then pure "" else pure (toString (← repetitionCount))
        pure (toString least ++ "," ++ most)
      else pure (toString least)
  expectSymbol "\x7d"
  return "\x7b" ++ bounds ++ "\x7d"

def repetition : Parser (Option String) := do
  match ← peek with
  | some (.symbol "*") => skip; return some "*"
  | some (.symbol "+") => skip; return some "+"
  | some (.placeholder "?") => skip; return some "?"
  | some (.symbol "\x7b") => skip; return some (← repetitionRange)
  | _ => return none

/-- A name in a pattern, or a pattern in parentheses, which `inner` reads. -/
def patternPart (inner : Parser String) : Parser String := do
  match ← peek with
  | some (.symbol "^") => skip; return "^"
  | some (.placeholder "$") => skip; return "$"
  | some (.symbol "\x7b") =>
    skip
    expectSymbol "-"
    let name ← ident
    expectSymbol "-"
    expectSymbol "\x7d"
    return "\x7b- " ++ name.print ++ " -\x7d"
  | some (.symbol "(") =>
    skip
    let pattern ← inner
    expectSymbol ")"
    return "( " ++ pattern ++ " )"
  | some (.word w) =>
    if w.quote.isNone && w.text == "PERMUTE" then
      skip
      return "PERMUTE(" ++ Text.commas ((← parenthesized (commaList ident)).map Ident.print) ++ ")"
    else return (← ident).print
  | _ => return (← ident).print

/-- The parts of a pattern up to a bar or the closing parenthesis, each with its repetitions. -/
def patternParts (inner : Parser String) : Nat → Parser (List String)
  | 0 => unexpected
  | n + 1 => do
    let part ← patternPart inner
    let part := part ++ String.join (← many repetition)
    if (← nextIsSymbol ")") || (← nextIsSymbol "|") then return [part] else return part :: (← patternParts inner n)

def rowPattern : Nat → Parser String
  | 0 => unexpected
  | n + 1 => do
    let parts ← patternParts (rowPattern n) (← remaining)
    if ← takeSymbol "|" then return Text.join " " parts ++ " | " ++ (← rowPattern n) else return Text.join " " parts

/-- What is shown of a match, and a space after it. -/
def rowsPerMatch : Parser String := do
  if ← takeKeywords ["ONE", "ROW", "PER", "MATCH"] then return "ONE ROW PER MATCH "
  else if ← takeKeywords ["ALL", "ROWS", "PER", "MATCH"] then
    if ← takeKeywords ["SHOW", "EMPTY", "MATCHES"] then return "ALL ROWS PER MATCH SHOW EMPTY MATCHES "
    else if ← takeKeywords ["OMIT", "EMPTY", "MATCHES"] then return "ALL ROWS PER MATCH OMIT EMPTY MATCHES "
    else if ← takeKeywords ["WITH", "UNMATCHED", "ROWS"] then return "ALL ROWS PER MATCH WITH UNMATCHED ROWS "
    else return "ALL ROWS PER MATCH "
  else return ""

/-- Where the search goes on after a match, and a space after it. -/
def afterMatch : Parser String := do
  if ← takeKeywords ["AFTER", "MATCH", "SKIP"] then
    if ← takeKeywords ["PAST", "LAST", "ROW"] then return "AFTER MATCH SKIP PAST LAST ROW "
    else if ← takeKeywords ["TO", "NEXT", "ROW"] then return "AFTER MATCH SKIP  TO NEXT ROW "
    else if ← takeKeywords ["TO", "FIRST"] then return "AFTER MATCH SKIP TO FIRST " ++ (← ident).print ++ " "
    else if ← takeKeywords ["TO", "LAST"] then return "AFTER MATCH SKIP TO LAST " ++ (← ident).print ++ " "
    else unexpected
  else return ""

def measure (r : Rules) : Parser Passage := do
  let e ← r.full
  discard (takeKeyword "AS")
  return .expr e ++ .words (" AS " ++ (← ident).print)

def patternSymbol (r : Rules) : Parser Passage := do
  let name ← ident
  expectKeyword "AS"
  return .words (name.print ++ " AS ") ++ .expr (← r.full)

def matchRecognize (d : Dialect) (r : Rules) : Parser Passage := do
  expectSymbol "("
  let partitions ←
    if ← takeKeywords ["PARTITION", "BY"] then
      pure (.words "PARTITION BY " ++ .commas ((← commaList r.full).map .expr) ++ .words " ")
    else pure (.words "")
  let order ←
    if ← takeKeywords ["ORDER", "BY"] then pure (.words "ORDER BY " ++ (← sortKeys d r).passage ++ .words " ")
    else pure (.words "")
  let measures ←
    if ← takeKeyword "MEASURES" then pure (.words "MEASURES " ++ .commas (← commaList (measure r)) ++ .words " ")
    else pure (.words "")
  let shown ← rowsPerMatch
  let after ← afterMatch
  expectKeyword "PATTERN"
  let pattern ← parenthesized (do rowPattern ((← remaining) + 1))
  expectKeyword "DEFINE"
  let symbols ← commaList (patternSymbol r)
  expectSymbol ")"
  return .words "MATCH_RECOGNIZE(" ++ partitions ++ order ++ measures ++
    .words (shown ++ after ++ "PATTERN (" ++ pattern ++ ") DEFINE ") ++ .commas symbols ++ .words ")"

/-! ## Rows from documents -/

/-- What a column holds where the path finds nothing or fails. -/
def columnFallback (d : Dialect) : Parser (Option String) := do
  match ← takeOneOf ["NULL", "ERROR", "DEFAULT"] with
  | none => return none
  | some "DEFAULT" =>
    let v ← value d
    expectKeyword "ON"
    return some ("DEFAULT " ++ v.print)
  | some k => expectKeyword "ON"; return some k

/-- The last fallback for nothing found, and the last one for a failure. -/
def fallbackLoop (d : Dialect) (empty failed : String) : Nat → Parser String
  | 0 => return empty ++ failed
  | n + 1 => do
    match ← columnFallback d with
    | none => return empty ++ failed
    | some text =>
      if ← takeKeyword "EMPTY" then fallbackLoop d (" " ++ text ++ " ON EMPTY") failed n
      else
        expectKeyword "ERROR"
        fallbackLoop d empty (" " ++ text ++ " ON ERROR") n

/-- A column of a table made from a JSON document. -/
def jsonColumn (d : Dialect) (r : Rules) : Nat → Parser String
  | 0 => unexpected
  | n + 1 => do
    if ← takeKeyword "NESTED" then
      discard (takeKeyword "PATH")
      let path ← value d
      expectKeyword "COLUMNS"
      let columns ← parenthesized (commaList (jsonColumn d r n))
      return "NESTED PATH " ++ path.print ++ " COLUMNS (" ++ Text.commas columns ++ ")"
    let name ← ident
    if ← takeKeyword "FOR" then
      expectKeyword "ORDINALITY"
      return name.print ++ " FOR ORDINALITY"
    let t ← r.dataType
    let tests ← takeKeyword "EXISTS"
    expectKeyword "PATH"
    let path ← value d
    let fallbacks ← fallbackLoop d "" "" (← remaining)
    return name.print ++ " " ++ t.text ++ Form.optional tests " EXISTS" ++ " PATH " ++ path.print ++ fallbacks

/-- A table made from a JSON document, after the opening parenthesis. -/
def jsonTable (d : Dialect) (r : Rules) : Parser Passage := do
  let e ← r.full
  expectSymbol ","
  let path ← value d
  expectKeyword "COLUMNS"
  let columns ← parenthesized (do commaList (jsonColumn d r (← remaining)))
  expectSymbol ")"
  return .words "JSON_TABLE(" ++ .expr e ++ .words (", " ++ path.print ++ " COLUMNS(" ++ Text.commas columns ++ "))")

def openJsonColumn (r : Rules) : Parser String := do
  let name ← ident
  let t ← r.dataType
  let path ←
    match ← peek with
    | some (.string s) => skip; pure (" " ++ quoteText '\x27' s)
    | _ => pure ""
  let asJson ← takeKeyword "AS"
  if asJson then expectKeyword "JSON"
  return name.print ++ " " ++ t.text ++ path ++ Form.optional asJson " AS JSON"

/-- The items of a JSON document as rows, after the opening parenthesis. -/
def openJson (d : Dialect) (r : Rules) : Parser Passage := do
  let e ← r.full
  let path ← if ← takeSymbol "," then pure (", " ++ (← value d).print) else pure ""
  expectSymbol ")"
  let columns ← if ← takeKeyword "WITH" then parenthesized (commaList (openJsonColumn r)) else pure []
  return .words "OPENJSON(" ++ .expr e ++ .words (path ++ ")" ++
    Form.optional (!columns.isEmpty) (" WITH (" ++ Text.commas columns ++ ")"))

def xmlNamespace (r : Rules) : Parser Passage := do
  let uri ← r.full
  expectKeyword "AS"
  return .expr uri ++ .words (" AS " ++ (← ident).print)

def xmlPassed (r : Rules) : Parser Passage := do
  let byValue ← takeKeyword "BY"
  if byValue then discard (takeKeyword "VALUE")
  return .words (Form.optional byValue "BY VALUE ") ++ (← aliasedExpr r)

def xmlColumn (r : Rules) : Parser Passage := do
  let name ← ident
  if ← takeKeyword "FOR" then
    expectKeyword "ORDINALITY"
    return .words (name.print ++ " FOR ORDINALITY")
  let t ← r.dataType
  let path ← keyedExpr "PATH" r
  let default ← keyedExpr "DEFAULT" r
  let required ← takeKeywords ["NOT", "NULL"]
  discard (takeWhere (!required) (takeKeyword "NULL"))
  return .words (name.print ++ " " ++ t.text) ++ path ++ default ++ .words (Form.optional required " NOT NULL")

/-- A table made from an XML document, after the opening parenthesis. -/
def xmlTable (r : Rules) : Parser Passage := do
  let namespaces ←
    if ← takeKeyword "XMLNAMESPACES" then
      let items ← parenthesized (commaList (xmlNamespace r))
      expectSymbol ","
      pure (.words "XMLNAMESPACES(" ++ .commas items ++ .words "), ")
    else pure (.words "")
  let row ← r.full
  let passing ←
    if ← takeKeyword "PASSING" then pure (.words " PASSING " ++ .commas (← commaList (xmlPassed r))) else pure (.words "")
  expectKeyword "COLUMNS"
  let columns ← commaList (xmlColumn r)
  expectSymbol ")"
  return .words "XMLTABLE(" ++ namespaces ++ .expr row ++ passing ++ .words " COLUMNS " ++ .commas columns ++ .words ")"

/-- The tables that are made from documents by a keyword and a parenthesis. -/
def documentTable? (d : Dialect) (r : Rules) (k : String) : Option (Parser Passage) :=
  match k with
  | "JSON_TABLE" => some (jsonTable d r)
  | "OPENJSON" => some (openJson d r)
  | "XMLTABLE" => some (xmlTable r)
  | _ => none

/-! ## Other relations -/

/-- A query in parentheses, after the opening one. -/
def derivedTable (d : Dialect) (r : Rules) (lateral : Bool) : Parser Factor := do
  let q ← r.query
  expectSymbol ")"
  return .derived lateral q (← tableAlias d r)

def isNestedJoin (f : Factor) : Bool :=
  match f with
  | .nested _ _ => true
  | _ => false

/-- A relation alone in parentheses, where the dialect allows it; an alias may stand inside or after them. -/
def loneRelation (d : Dialect) (r : Rules) (f : Factor) : Parser Factor := do
  expectSymbol ")"
  match ← tableAlias d r with
  | none => return f
  | some a =>
    match f.alias? with
    | some _ => failAt none
    | none => return f.withAlias a

/-- What an opening parenthesis in place of a relation leads to. -/
def parenthesizedRelation (d : Dialect) (r : Rules) : Parser Factor := do
  match ← attempt (derivedTable d r false) with
  | some f => turned d r f (← remaining)
  | none =>
    let t ← r.tableTree
    if !t.joins.isEmpty || isNestedJoin t.relation then
      expectSymbol ")"
      return .nested t (← tableAlias d r)
    else if d == .generic then loneRelation d r t.relation
    else unexpected

def lateralRelation (d : Dialect) (r : Rules) : Parser Factor := do
  if ← takeSymbol "(" then derivedTable d r true
  else
    let name ← objectName d
    expectSymbol "("
    let args ← tableArgs d r
    let applied := Expr.call ⟨name, false⟩ .absent (.list none args []) []
    return .computed (Passage.words "LATERAL " ++ .expr applied).clause (← tableAlias d r) ""

def unnestRelation (d : Dialect) (r : Rules) : Parser Factor := do
  let arrays ← parenthesized (commaList r.full)
  let ordinality ← takeKeywords ["WITH", "ORDINALITY"]
  let aliasName ← tableAlias d r
  let unnested := Passage.words "UNNEST(" ++ .commas (arrays.map .expr) ++
    .words (")" ++ Form.optional ordinality " WITH ORDINALITY")
  if ← takeKeywords ["WITH", "OFFSET"] then
    match ← alias? (isColumnAlias d) with
    | some a => return .computed unnested.clause aliasName (" WITH OFFSET AS " ++ a.print)
    | none => return .computed unnested.clause aliasName " WITH OFFSET"
  return .computed unnested.clause aliasName ""

def valuesRow (r : Rules) (mayBeEmpty : Bool) : Parser (Bool × List Expr) := do
  let explicit ← takeKeyword "ROW"
  let row ← parenthesized (if mayBeEmpty then commaListUntil ")" r.full else commaList r.full)
  return (explicit, row)

/-- The rows of a VALUES list. -/
def valuesBody (r : Rules) (mayBeEmpty : Bool) : Parser SetExpr := do
  let rows ← commaList (valuesRow r mayBeEmpty)
  return .values (rows.any Prod.fst) (rows.map Prod.snd)

/-- A named table, the turns that follow it, and a pattern that its rows are matched with. -/
def turnedTable (d : Dialect) (r : Rules) : Parser Factor := do
  let f ← namedTable d r
  let f ← turned d r f (← remaining)
  if ← takeWhere (d == .generic) (takeKeyword "MATCH_RECOGNIZE") then
    let rows ← matchRecognize d r
    return .turned f rows.clause (← tableAlias d r)
  else return f

def relation (d : Dialect) (r : Rules) : Parser Factor := do
  let second ← peekAt 1
  match ← peek with
  | some (.symbol "(") => skip; parenthesizedRelation d r
  | some (.word w) =>
    match w.keyword with
    | some "LATERAL" => skip; lateralRelation d r
    | some "TABLE" =>
      skip
      let e ← parenthesized r.full
      return .computed (Passage.words "TABLE(" ++ .expr e ++ .words ")").clause (← tableAlias d r) ""
    | some "VALUES" =>
      if d == .generic && second == some (.symbol "(") then
        skip
        let body ← valuesBody r false
        return .derived false ⟨false, [], body, []⟩ (← tableAlias d r)
      else turnedTable d r
    | some "UNNEST" => if d == .generic || d == .postgresql then skip; unnestRelation d r else turnedTable d r
    | some k =>
      match documentTable? d r k with
      | some table =>
        if second == some (.symbol "(") then
          skip
          skip
          let made ← table
          return .computed made.clause (← tableAlias d r) ""
        else turnedTable d r
      | none => turnedTable d r
    | none => turnedTable d r
  | _ => turnedTable d r

/-! ## Joins -/

/-- The operator of a join that may be natural; nothing if no join follows. -/
def joinOperator (natural : Bool) : Parser (Option JoinOperator) := do
  match ← peekKeyword with
  | some "JOIN" => skip; return some .join
  | some "INNER" => skip; expectKeyword "JOIN"; return some .inner
  | some "LEFT" =>
    skip
    match ← takeOneOf ["OUTER", "SEMI", "ANTI", "JOIN"] with
    | some "OUTER" => expectKeyword "JOIN"; return some .leftOuter
    | some "SEMI" => expectKeyword "JOIN"; return some .leftSemi
    | some "ANTI" => expectKeyword "JOIN"; return some .leftAnti
    | some _ => return some .left
    | none => failAt none
  | some "RIGHT" =>
    skip
    match ← takeOneOf ["OUTER", "SEMI", "ANTI", "JOIN"] with
    | some "OUTER" => expectKeyword "JOIN"; return some .rightOuter
    | some "SEMI" => expectKeyword "JOIN"; return some .rightSemi
    | some "ANTI" => expectKeyword "JOIN"; return some .rightAnti
    | some _ => return some .right
    | none => failAt none
  | some "ANTI" => skip; expectKeyword "JOIN"; return some .anti
  | some "SEMI" => skip; expectKeyword "JOIN"; return some .semi
  | some "FULL" => skip; discard (takeKeyword "OUTER"); expectKeyword "JOIN"; return some .fullOuter
  | some "OUTER" => unexpected
  | some "STRAIGHT_JOIN" => skip; return some .straight
  | _ => if natural then unexpected else return none

/-- Which rows of `f` match. -/
def joinConstraint (d : Dialect) (r : Rules) (isGlobal natural : Bool) (op : JoinOperator) (f : Factor)
    (matching : Option Expr) : Parser Join := do
  if natural then return ⟨isGlobal, op, f, matching, none, .natural⟩
  else if ← takeKeyword "ON" then return ⟨isGlobal, op, f, matching, some (← r.full), .none⟩
  else if ← takeKeyword "USING" then return ⟨isGlobal, op, f, matching, none, .columns (← nameList d)⟩
  else return ⟨isGlobal, op, f, matching, none, .none⟩

def joinRest (d : Dialect) (r : Rules) (isGlobal natural : Bool) (op : JoinOperator) : Parser Join := do
  let f ← relation d r
  joinConstraint d r isGlobal natural op f none

/-- A join with the nearest row before, after the word that opens it. -/
def asOfJoin (d : Dialect) (r : Rules) (isGlobal : Bool) : Parser Join := do
  expectKeyword "JOIN"
  let f ← relation d r
  expectKeyword "MATCH_CONDITION"
  let matching ← parenthesized r.full
  joinConstraint d r isGlobal false .asOf f (some matching)

def join (d : Dialect) (r : Rules) : Parser (Option Join) := do
  let isGlobal ← takeKeyword "GLOBAL"
  if ← takeKeyword "CROSS" then
    let op ← expectOneOf ["JOIN", "APPLY"]
    let f ← relation d r
    return some ⟨isGlobal, if op == "JOIN" then .cross else .crossApply, f, none, none, .none⟩
  else if ← takeKeyword "OUTER" then
    expectKeyword "APPLY"
    return some ⟨isGlobal, .outerApply, ← relation d r, none, none, .none⟩
  else if ← takeKeyword "ASOF" then return some (← asOfJoin d r isGlobal)
  else
    let natural ← takeKeyword "NATURAL"
    match ← joinOperator natural with
    | some op => return some (← joinRest d r isGlobal natural op)
    | none => return none

/-- A relation and the joins after it. -/
def tableTree (d : Dialect) (r : Rules) : Parser TableTree := do
  let f ← relation d r
  return ⟨f, ← many (join d r)⟩

end SqlTemplate.Grammar
