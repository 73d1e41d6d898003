/-
Data types. A type is known by its canonical spelling: keywords in upper case, lengths and
precisions in parentheses, array brackets last. A name that no rule knows is a custom type and is
kept as written.
-/
import SqlTemplate.Grammar.Basic

namespace SqlTemplate.Grammar

open SqlTemplate.Grammar.Parser

/-! ## Parts of types -/

/-- `(n)`, or nothing. -/
def precision : Parser String := do
  if ← takeSymbol "(" then
    let n ← literalNumber
    expectSymbol ")"
    return "(" ++ toString n ++ ")"
  else return ""

/-- `(p)` or `(p,s)`, or nothing. -/
def precisionScale : Parser String := do
  if ← takeSymbol "(" then
    let p ← literalNumber
    let s ← if ← takeSymbol "," then pure ("," ++ toString (← literalNumber)) else pure ""
    expectSymbol ")"
    return "(" ++ toString p ++ s ++ ")"
  else return ""

/-- A length in characters or bytes, in parentheses, or nothing. -/
def characterLength : Parser String := do
  if ← takeSymbol "(" then
    let text ←
      if ← takeKeyword "MAX" then pure "MAX"
      else
        let n ← literalNumber
        match ← takeOneOf ["CHARACTERS", "OCTETS"] with
        | some unit => pure (toString n ++ " " ++ unit)
        | none => pure (toString n)
    expectSymbol ")"
    return "(" ++ text ++ ")"
  else return ""

def binaryLength : Parser String := do
  if ← takeSymbol "(" then
    let text ← if ← takeKeyword "MAX" then pure "MAX" else pure (toString (← literalNumber))
    expectSymbol ")"
    return "(" ++ text ++ ")"
  else return ""

def timeZone : Parser String := do
  if ← takeKeyword "WITH" then
    expectKeywords ["TIME", "ZONE"]
    return " WITH TIME ZONE"
  else if ← takeKeyword "WITHOUT" then
    expectKeywords ["TIME", "ZONE"]
    return " WITHOUT TIME ZONE"
  else return ""

/-- Dialects in which `SIGNED` may stand after an integer type. -/
def signedSuffix (d : Dialect) : Bool := d == .mysql || d == .generic

def unsigned (d : Dialect) : Parser String := do
  if ← takeKeyword "UNSIGNED" then return " UNSIGNED"
  discard (takeWhere (signedSuffix d) (takeKeyword "SIGNED"))
  return ""

def stringItem : Parser String := do
  match ← peek with
  | some (.string s) => skip; return quoteText '\x27' s
  | _ => unexpected

def stringItems : Parser String := do
  let items ← parenthesized (commaList stringItem)
  return "(" ++ Text.commas items ++ ")"

/-- A number with an optional sign. -/
def signedNumber (d : Dialect) : Parser String := do
  if ← takeSymbol "+" then return "+" ++ (← numberValue d).print
  else if ← takeSymbol "-" then return "-" ++ (← numberValue d).print
  else return (← numberValue d).print

/-- A member of an enumeration, which may have a number. -/
def enumMember (d : Dialect) : Parser String := do
  let name ← literalString d
  if ← takeSymbol "=" then return quoteText '\x27' name ++ " = " ++ (← signedNumber d)
  else return quoteText '\x27' name

def enumMembers (d : Dialect) : Parser String := do
  let members ← parenthesized (commaList (enumMember d))
  return "(" ++ Text.commas members ++ ")"

/-- Arguments of a custom type: words, numbers and strings, with or without commas. -/
def modifierLoop : Nat → Parser (List String)
  | 0 => unexpected
  | n + 1 => do
    match ← peek with
    | some (.word w) => skip; return w.print :: (← modifierLoop n)
    | some (.number text _) => skip; return text :: (← modifierLoop n)
    | some (.string s) => skip; return s :: (← modifierLoop n)
    | some (.symbol ",") => skip; modifierLoop n
    | some (.symbol ")") => skip; return []
    | _ => unexpected

def customType (d : Dialect) : Parser DataType := do
  let name ← objectName d
  let modifiers ← if ← takeSymbol "(" then modifierLoop (← remaining) else pure []
  if modifiers.isEmpty then return ⟨name.print, .custom⟩
  else return ⟨name.print ++ "(" ++ Text.commas modifiers ++ ")", .custom⟩

/-! ## Types made of others -/

/-- The bracket after the last of the inner types, unless that type's own has closed this one, too. -/
def closingBracket (closed : Bool) : Parser Bool := do
  if closed then return false
  else if ← takeSymbol ">" then return false
  else if ← takeSymbol ">>" then return true
  else unexpected

/-- A field of a structured type: a name and a type where two words follow each other, else a type alone. -/
def typeField (r : Rules) : Parser (String × Bool) := do
  let named :=
    match ← peek, ← peekAt 1 with
    | some (.word _), some (.word _) => true
    | some (.word _), some (.symbol ":") => true
    | _, _ => false
  if named then
    let name ← ident
    discard (takeSymbol ":")
    let t ← r.openType
    return (name.print ++ " " ++ t.type.text, t.closes)
  else
    let t ← r.openType
    return (t.type.text, t.closes)

def bracketedFields (r : Rules) : Nat → Parser (List String × Bool)
  | 0 => return ([], false)
  | n + 1 => do
    let (field, closed) ← typeField r
    if closed then return ([field], closed)
    else if ← takeSymbol "," then
      let (fields, closed) ← bracketedFields r n
      return (field :: fields, closed)
    else return ([field], closed)

/-- The fields in angle brackets after STRUCT, if there are any, and whether they close the type around, too. -/
def structFields (r : Rules) : Parser (List String × Bool) := do
  if ← takeSymbol "<" then
    let (fields, closed) ← bracketedFields r (← remaining)
    return (fields, ← closingBracket closed)
  else return ([], false)

/-- A name and a type. -/
def typedName (r : Rules) : Parser String := do
  let name ← ident
  let t ← r.dataType
  return name.print ++ " " ++ t.text

def typedNames (r : Rules) : Parser String := do
  let names ← parenthesized (commaList (typedName r))
  return "(" ++ Text.commas names ++ ")"

def innerType (r : Rules) : Parser String := do
  let t ← parenthesized r.dataType
  return "(" ++ t.text ++ ")"

def mapTypes (r : Rules) : Parser String :=
  parenthesized do
    let key ← r.dataType
    expectSymbol ","
    let v ← r.dataType
    return "(" ++ key.text ++ ", " ++ v.text ++ ")"

def tupleTypes (r : Rules) : Parser String := do
  let fields ← parenthesized (commaList (typeField r))
  return "(" ++ Text.commas (fields.map Prod.fst) ++ ")"

/-- A precision and, if one follows, a time zone. -/
def precisionZone (d : Dialect) : Parser String :=
  parenthesized do
    let p ← literalNumber
    let zone ← if ← takeSymbol "," then pure (", '" ++ (← literalString d) ++ "'") else pure ""
    return "(" ++ toString p ++ zone ++ ")"

def requiredLength : Parser String := do
  let n ← parenthesized literalNumber
  return "(" ++ toString n ++ ")"

/-! ## Families -/

/-- Types that are a single keyword. -/
def plainTypes : List String :=
  ["BOOLEAN", "BOOL", "REAL", "FLOAT4", "FLOAT64", "FLOAT8", "INT64", "HUGEINT", "UBIGINT", "UHUGEINT", "USMALLINT",
   "UTINYINT", "TINYBLOB", "MEDIUMBLOB", "LONGBLOB", "UUID", "DATE", "TIMESTAMP_NTZ", "JSON", "JSONB", "REGCLASS",
   "TEXT", "TINYTEXT", "MEDIUMTEXT", "LONGTEXT", "BYTEA", "TRIGGER"]

/-- Types that are a single keyword and are spelled in their own way. -/
def spelledTypes : List (String × String) :=
  [("INT16", "Int16"), ("INT32", "Int32"), ("INT128", "Int128"), ("INT256", "Int256"), ("UINT8", "UInt8"),
   ("UINT16", "UInt16"), ("UINT32", "UInt32"), ("UINT64", "UInt64"), ("UINT128", "UInt128"), ("UINT256", "UInt256"),
   ("FLOAT32", "Float32"), ("DATE32", "Date32")]

def integerTypes : List String :=
  ["TINYINT", "INT2", "SMALLINT", "MEDIUMINT", "INT", "INT4", "INT8", "INTEGER", "BIGINT"]

/-- Types with an optional length or precision in parentheses. -/
def lengthTypes : List String :=
  ["FLOAT", "CLOB", "BINARY", "BLOB", "BYTES", "STRING", "DATETIME", "TIMESTAMPTZ", "TIMETZ", "VARBIT"]

def decimalTypes : List String := ["NUMERIC", "DECIMAL", "DEC", "BIGNUMERIC", "BIGDECIMAL"]

/-- Types for the search in texts. -/
def searchTypes : List String := ["TSVECTOR", "TSQUERY"]

/-- `CHARACTER` and `CHAR` may vary in length or be a large object. -/
def characterType (k : String) : Parser String := do
  if ← takeKeyword "VARYING" then return k ++ " VARYING" ++ (← characterLength)
  else if ← takeKeywords ["LARGE", "OBJECT"] then return k ++ " LARGE OBJECT" ++ (← precision)
  else return k ++ (← characterLength)

/-- A type that the dialect with most of them knows and no other. -/
def structuredType (r : Rules) (k : String) : Parser (Option (String × Bool)) := do
  match k with
  | "STRUCT" =>
    skip
    let (fields, closes) ← structFields r
    return some ("STRUCT" ++ Form.optional (!fields.isEmpty) ("<" ++ Text.commas fields ++ ">"), closes)
  | "UNION" => skip; return some ("UNION" ++ (← typedNames r), false)
  | "NULLABLE" => skip; return some ("Nullable" ++ (← innerType r), false)
  | "LOWCARDINALITY" => skip; return some ("LowCardinality" ++ (← innerType r), false)
  | "MAP" => skip; return some ("Map" ++ (← mapTypes r), false)
  | "NESTED" => skip; return some ("Nested" ++ (← typedNames r), false)
  | "TUPLE" => skip; return some ("Tuple" ++ (← tupleTypes r), false)
  | _ => return none

/-- A type with a syntax of its own; nothing if the keyword names none. -/
def specialType (d : Dialect) (r : Rules) (k : String) : Parser (Option String) := do
  match k with
  | "DOUBLE" =>
    skip
    if ← takeKeyword "PRECISION" then return some "DOUBLE PRECISION"
    else return some ("DOUBLE" ++ (← precisionScale))
  | "VARCHAR" | "NVARCHAR" => skip; return some (k ++ (← characterLength))
  | "CHARACTER" | "CHAR" => skip; return some (← characterType k)
  | "VARBINARY" => skip; return some (k ++ (← binaryLength))
  | "BIT" =>
    skip
    if ← takeKeyword "VARYING" then return some ("BIT VARYING" ++ (← precision))
    else return some ("BIT" ++ (← precision))
  | "TIMESTAMP" | "TIME" => skip; let p ← precision; return some (k ++ p ++ (← timeZone))
  | "DATETIME64" => skip; return some ("DateTime64" ++ (← precisionZone d))
  | "FIXEDSTRING" => skip; return some ("FixedString" ++ (← requiredLength))
  | "ENUM" | "ENUM8" | "ENUM16" => skip; return some (k ++ (← enumMembers d))
  | "SET" => skip; return some (k ++ (← stringItems))
  | "SIGNED" | "UNSIGNED" =>
    skip
    if ← takeKeyword "INTEGER" then return some (k ++ " INTEGER") else return some k
  | "ANY" =>
    if (← peekKeywordAt 1) == some "TYPE" then skip; skip; return some "ANY TYPE" else return none
  | "TABLE" => skip; if ← nextIsSymbol "(" then return some ("TABLE" ++ (← typedNames r)) else return some "TABLE"
  | _ => return none

/-- The rest of a type after its keyword; nothing if the keyword names no type. -/
def builtinType (d : Dialect) (r : Rules) (k : String) : Parser (Option (String × Bool)) := do
  if plainTypes.contains k then skip; return some (k, false)
  else if (d == .postgresql || d == .generic) && searchTypes.contains k then skip; return some (k, false)
  else if integerTypes.contains k then
    skip
    let length ← precision
    return some (k ++ length ++ (← unsigned d), false)
  else if decimalTypes.contains k then skip; return some (k ++ (← precisionScale), false)
  else if lengthTypes.contains k then skip; return some (k ++ (← precision), false)
  else if k == "ARRAY" then
    skip
    expectSymbol "<"
    let inner ← r.openType
    return some ("ARRAY<" ++ inner.type.text ++ ">", ← closingBracket inner.closes)
  else
    match spelledTypes.lookup k with
    | some text => skip; return some (text, false)
    | none =>
      match ← specialType d r k with
      | some text => return some (text, false)
      | none => if d == .generic then structuredType r k else return none

/-- Dialects in which brackets after a type make it an array. -/
def bracketArrays (d : Dialect) : Bool := d == .generic || d == .postgresql

def arraySuffix : Parser (Option String) := do
  if ← takeSymbol "[" then
    let size ← attempt literalNumber
    expectSymbol "]"
    return some ("[" ++ (match size with | some n => toString n | none => "") ++ "]")
  else return none

/-! ## Whole types -/

def simpleType (d : Dialect) (r : Rules) : Parser OpenType := do
  match ← peek with
  | some (.word w) =>
    match w.keyword with
    | some "INTERVAL" => skip; return ⟨⟨"INTERVAL", .interval⟩, false⟩
    | some k =>
      match ← builtinType d r k with
      | some (text, closes) => return ⟨⟨text, .builtin⟩, closes⟩
      | none => return ⟨← customType d, false⟩
    | none => return ⟨← customType d, false⟩
  | _ => unexpected

def openType (d : Dialect) (r : Rules) : Parser OpenType := do
  let t ← simpleType d r
  let suffixes ← if bracketArrays d then many arraySuffix else pure []
  if suffixes.isEmpty then return t else return ⟨⟨t.type.text ++ String.join suffixes, .builtin⟩, t.closes⟩

end SqlTemplate.Grammar
