/-
The lexer. `nextToken` reads the token that a text begins with and says how many characters it has;
`tokenize` repeats this over a whole text and notes the place of every token. What starts or
continues a word, which quotes wrap identifiers, which characters escape and which comments nest
depends on the dialect.
-/
import SqlTemplate.Dialect
import SqlTemplate.Token.Basic

namespace SqlTemplate.Lexer

/-! ## Lexical rules of the dialects -/

def isIdentStart (d : Dialect) (c : Char) : Bool :=
  match d with
  | .generic | .mssql => Text.isLetter c || c == '_' || c == '#' || c == '@'
  | .mysql => Text.isLetter c || c == '_' || c == '$' || c == '@' || !Text.isAscii c
  | .postgresql => Text.isLetter c || c == '_' || !Text.isAscii c
  | .sqlite => c.isAlpha || c == '_' || (0x7F ≤ c.toNat && c.toNat ≤ 0xFFFF)

def isIdentPart (d : Dialect) (c : Char) : Bool :=
  match d with
  | .generic | .mssql | .postgresql => isIdentStart d c || c.isDigit || c == '$'
  | .mysql | .sqlite => isIdentStart d c || c.isDigit

/-- The quote that closes an identifier opened by this one. -/
def identQuote? (d : Dialect) (c : Char) : Option Char :=
  let double := c == '"'
  let tick := c == '\x60'
  let bracket := c == '['
  let here :=
    match d with
    | .generic => double || tick
    | .mysql => tick
    | .postgresql => double
    | .sqlite => double || tick || bracket
    | .mssql => double || bracket
  if here then some (if bracket then ']' else c) else none

/-- Letters that may stand before a quote to make a literal of a special kind. -/
def hasByteStrings (d : Dialect) : Bool := d == .generic || d == .mysql || d == .postgresql

def hasRawStrings (d : Dialect) : Bool := d == .generic

def hasEscapedStrings (d : Dialect) : Bool := d == .generic || d == .postgresql

def nestsComments (d : Dialect) : Bool := d == .generic || d == .postgresql || d == .mssql

/-- A word may start with a digit. -/
def numericWords (d : Dialect) : Bool := d == .mysql

/-- Digits may be grouped by underscores. -/
def digitGroups (d : Dialect) : Bool := d == .postgresql

/-- A `$` stands in the name of a placeholder and opens no string. -/
def dollarNames (d : Dialect) : Bool := d == .sqlite

/-- Operators may be composed freely of these characters. -/
def isOperatorPart (d : Dialect) (c : Char) : Bool :=
  d == .postgresql && ['+', '-', '*', '/', '<', '>', '=', '~', '!', '@', '#', '%', '^', '&', '|', '\x60', '?'].contains c

/-! ## Pieces of tokens -/

/-- A token with the number of its characters, or a complaint about the character at an offset. -/
abbrev Reading := Except (String × Nat) (Token × Nat)

def takeCount (p : Char → Bool) (cs : List Char) : List Char × Nat :=
  let taken := cs.takeWhile p
  (taken, taken.length)

/-- What a backslash and `c` stand for. -/
def unescape (c : Char) : Char :=
  match c with
  | '0' => '\x00'
  | 'a' => '\x07'
  | 'b' => '\x08'
  | 'f' => '\x0c'
  | 'n' => '\n'
  | 'r' => '\r'
  | 't' => '\t'
  | 'Z' => '\x1a'
  | c => c

/-- What a backslash does to the character after it. -/
inductive Backslash where
  | plain
  | escapes
  | escapesButWildcards
deriving DecidableEq

/-- The backslash in an ordinary string literal. -/
def stringBackslash (d : Dialect) : Backslash := if d == .mysql then .escapesButWildcards else .plain

/-- The backslash in a literal where it always escapes; one dialect keeps it before the wildcards of patterns. -/
def hexBackslash (d : Dialect) : Backslash := if d == .mysql then .escapesButWildcards else .escapes

/-- The contents of a quoted text after its opening quote, and how many characters they and the closing quote
take. A doubled quote stands for one. -/
def quotedBody (quote : Char) (mode : Backslash) : List Char → Option (List Char × Nat)
  | [] => none
  | c :: cs =>
    if c == quote then
      match cs with
      | q :: rest => if q == quote then (quotedBody quote mode rest).map (push [c] 2) else some ([], 1)
      | [] => some ([], 1)
    else if mode != .plain && c == '\\' then
      match cs with
      | e :: rest =>
        let meant := if mode == .escapesButWildcards && (e == '%' || e == '_') then [c, e] else [unescape e]
        (quotedBody quote mode rest).map (push meant 2)
      | [] => none
    else (quotedBody quote mode cs).map (push [c] 1)
where
  push (meant : List Char) (count : Nat) (r : List Char × Nat) : List Char × Nat :=
    (meant ++ r.1, r.2 + count)

def hexValue (c : Char) : Nat :=
  if c.isDigit then c.toNat - 48 else if 'a' ≤ c && c ≤ 'f' then c.toNat - 87 else c.toNat - 55

def baseValue (base : Nat) (cs : List Char) : Nat := cs.foldl (fun n c => n * base + hexValue c) 0

def isScalar (n : Nat) : Bool := n < 0xD800 || (0xE000 ≤ n && n < 0x110000)

/-- The ASCII character that a byte value of up to three digits means, if it is one other than NUL. -/
def byteChar? (base : Nat) (digits : List Char) : Option Char :=
  let n := baseValue base digits % 256
  if 0 < n && n ≤ 127 then some (Char.ofNat n) else none

/-- The number that a text of hexadecimal digits means; a plus sign may stand before them. -/
def hexNumber? (cs : List Char) : Option Nat :=
  let digits := match cs with | '+' :: rest => rest | _ => cs
  if !digits.isEmpty && digits.all Text.isHexDigit then some (baseValue 16 digits) else none

/-- The character other than NUL that an exact number of characters means in an escaped literal. -/
def codeChar? (count : Nat) (cs : List Char) : Option Char :=
  match hexNumber? (cs.take count) with
  | some n => if count ≤ cs.length && isScalar n && n != 0 then some (Char.ofNat n) else none
  | none => none

def isOctal (c : Char) : Bool := '0' ≤ c && c ≤ '7'

/-- The character that the text after a backslash means in an escaped literal, and how much of the text it takes. -/
def escapeMeaning? : List Char → Option (Char × Nat)
  | [] => none
  | 'b' :: _ => some ('\x08', 1)
  | 'f' :: _ => some ('\x0c', 1)
  | 'n' :: _ => some ('\n', 1)
  | 'r' :: _ => some ('\r', 1)
  | 't' :: _ => some ('\t', 1)
  | 'u' :: cs => (codeChar? 4 cs).map (·, 5)
  | 'U' :: cs => (codeChar? 8 cs).map (·, 9)
  | 'x' :: cs =>
    let digits := (cs.take 2).takeWhile Text.isHexDigit
    if digits.isEmpty then some ('x', 1) else (byteChar? 16 digits).map (·, digits.length + 1)
  | c :: cs =>
    if isOctal c then
      let digits := c :: (cs.take 2).takeWhile isOctal
      (byteChar? 8 digits).map (·, digits.length)
    else if c == '\x00' then none
    else some (c, 1)

/-- The contents of an escaped literal after its opening quote; `skip` characters are already accounted for. -/
def escapedBody (skip : Nat) : List Char → Option (List Char × Nat)
  | [] => none
  | c :: cs =>
    match skip with
    | k + 1 => (escapedBody k cs).map fun r => (r.1, r.2 + 1)
    | 0 =>
      if c == '\x27' then
        match cs with
        | q :: _ => if q == c then (escapedBody 1 cs).map fun r => (c :: r.1, r.2 + 1) else some ([], 1)
        | [] => some ([], 1)
      else if c == '\\' then
        match escapeMeaning? cs with
        | some (meant, count) => (escapedBody count cs).map fun r => (meant :: r.1, r.2 + 1)
        | none => none
      else (escapedBody 0 cs).map fun r => (c :: r.1, r.2 + 1)

/-- The character that exactly `count` hexadecimal digits mean, or a complaint about the place after so many characters. -/
def unicodeChar (count : Nat) (cs : List Char) : Except (String × Nat) Char :=
  let digits := (cs.take count).takeWhile Text.isHexDigit
  let n := baseValue 16 digits
  if digits.length == count then
    if isScalar n then .ok (Char.ofNat n)
    else .error ("Invalid unicode character: " ++ String.ofList (Nat.toDigits 16 n), count)
  else
    match cs.drop digits.length with
    | c :: _ => .error ("Invalid hex digit in escaped unicode string: " ++ c.toString, digits.length + 1)
    | [] => .error ("Unexpected EOF while parsing hex digit in escaped unicode string.", digits.length)

/-- The contents of a literal with Unicode escapes after its opening quote and the number of characters they and
the closing quote take; `skip` characters are already accounted for, and `offset` more stand before. -/
def unicodeBody (skip offset : Nat) : List Char → Except (String × Nat) (List Char × Nat)
  | [] => .error ("Unterminated unicode encoded string literal", offset)
  | c :: cs =>
    match skip with
    | k + 1 => unicodeBody k (offset + 1) cs
    | 0 =>
      if c == '\x27' then
        if cs.head? == some c then push c (unicodeBody 1 (offset + 1) cs) else .ok ([], offset + 1)
      else if c == '\\' then
        match cs with
        | '\\' :: _ => push c (unicodeBody 1 (offset + 1) cs)
        | '+' :: rest =>
          match unicodeChar 6 rest with
          | .ok meant => push meant (unicodeBody 7 (offset + 1) cs)
          | .error (message, place) => .error (message, offset + 2 + place)
        | _ =>
          match unicodeChar 4 cs with
          | .ok meant => push meant (unicodeBody 4 (offset + 1) cs)
          | .error (message, place) => .error (message, offset + 1 + place)
      else push c (unicodeBody 0 (offset + 1) cs)
where
  push (c : Char) (r : Except (String × Nat) (List Char × Nat)) : Except (String × Nat) (List Char × Nat) :=
    r.map fun (text, count) => (c :: text, count)

/-- Length of a block comment after its opening `/*`, which is `depth` comments deep. -/
def commentBody (nests : Bool) (depth : Nat) : List Char → Option Nat
  | [] => none
  | c :: cs =>
    if nests && c == '/' && cs.head? == some '*' then
      match cs with
      | [] => none
      | _ :: rest => (commentBody nests (depth + 1) rest).map (· + 2)
    else if c == '*' && cs.head? == some '/' then
      if depth ≤ 1 then some 2
      else
        match cs with
        | [] => none
        | _ :: rest => (commentBody nests (depth - 1) rest).map (· + 2)
    else (commentBody nests depth cs).map (· + 1)

/-- Length of a comment that runs to the end of the line, the line break included. -/
def lineComment (d : Dialect) (cs : List Char) : Nat :=
  let body := cs.takeWhile fun c => c != '\n' && !(d == .postgresql && c == '\r')
  if body.length < cs.length then body.length + 1 else body.length

/-! ## Literals -/

/-- A quoted literal that starts `offset` characters into the token. -/
def literal (make : String → Token) (quote : Char) (mode : Backslash) (offset : Nat) (cs : List Char) : Reading :=
  match quotedBody quote mode cs with
  | some (body, count) => .ok (make (String.ofList body), offset + 1 + count)
  | none => .error ("Unterminated string literal", offset)

/-- Contents of a text up to three quotes in a row, and how many characters they and those quotes take. -/
def tripleBody (quote : Char) : List Char → Option (List Char × Nat)
  | [] => none
  | c :: cs =>
    if c == quote && cs.take 2 == [quote, quote] then some ([], 3)
    else (tripleBody quote cs).map fun r => (c :: r.1, r.2 + 1)

/-- A raw literal, whose opening quote is the first of up to three; `cs` follows it. -/
def raw (quote : Char) (cs : List Char) : Reading :=
  match (cs.take 2).takeWhile (· == quote) with
  | [] => raised (.raw quote) (quotedBody quote .plain cs) 2
  | [_] => .ok (.raw quote "", 3)
  | _ => raised (.tripleRaw quote) (tripleBody quote (cs.drop 2)) 4
where
  raised (make : String → Token) (body : Option (List Char × Nat)) (start : Nat) : Reading :=
    match body with
    | some (text, count) => .ok (make (String.ofList text), start + count)
    | none => .error ("Unterminated string literal", start)

def quotedIdent (opening closing : Char) (cs : List Char) : Reading :=
  match quotedBody closing .plain cs with
  | some (body, count) => .ok (.quotedWord opening body, count + 1)
  | none => .error ("Expected close delimiter '" ++ closing.toString ++ "' before EOF.", 0)

/-- A plain word that begins with `first`; `cs` is what follows. -/
def word (d : Dialect) (first cs : List Char) : Reading :=
  let (rest, count) := takeCount (isIdentPart d) cs
  .ok (.plainWord (first ++ rest), first.length + count)

/-- Contents of a string between two `$$`, after the first. -/
def dollarBody (previous : Bool) : List Char → Option (List Char × Nat)
  | [] => none
  | c :: cs =>
    if c == '$' then
      if previous then some ([], 1) else (dollarBody true cs).map fun r => (r.1, r.2 + 1)
    else (dollarBody false cs).map fun r => ((if previous then ['$', c] else [c]) ++ r.1, r.2 + 1)

/-- Contents of a string up to its closing `delimiter`. -/
def delimitedBody (delimiter : List Char) : List Char → Option (List Char × Nat)
  | [] => none
  | c :: cs =>
    if delimiter.isPrefixOf (c :: cs) then some ([], delimiter.length)
    else (delimitedBody delimiter cs).map fun r => (c :: r.1, r.2 + 1)

/-- A placeholder or a dollar-quoted string; `cs` follows the first `$`. -/
def dollar (d : Dialect) (cs : List Char) : Reading :=
  match cs with
  | '$' :: body =>
    if dollarNames d then name cs
    else
      match dollarBody false body with
      | some (text, count) => .ok (.dollarQuoted none (String.ofList text), count + 2)
      | none => .error ("Unterminated dollar-quoted string", cs.length + 1)
  | _ => name cs
where
  name (cs : List Char) : Reading :=
    let (tag, count) := takeCount (fun c => Text.isAlnum c || c == '_' || (c == '$' && dollarNames d)) cs
    match cs.drop count with
    | '$' :: body =>
      match delimitedBody ('$' :: tag ++ ['$']) body with
      | some (text, n) => .ok (.dollarQuoted (some (String.ofList tag)) (String.ofList text), count + 2 + n)
      | none => .error ("Unterminated dollar-quoted, expected $", cs.length + 1)
    | _ => .ok (.placeholder (String.ofList ('$' :: tag)), count + 1)

/-! ## Numbers -/

/-- Digits; an underscore counts where digits may be grouped and one follows. -/
def digits (d : Dialect) (hexadecimal : Bool) : List Char → List Char
  | [] => []
  | c :: cs =>
    let isDigit := if hexadecimal then Text.isHexDigit c else c.isDigit
    let isGroup := digitGroups d && c == '_' && cs.head?.any Text.isHexDigit
    if isDigit || isGroup then c :: digits d hexadecimal cs else []

/-- The exponent that `cs` begins with, empty if there is none. -/
def exponent (cs : List Char) : List Char :=
  match cs with
  | e :: rest =>
    if e == 'e' || e == 'E' then
      let (sign, after) :=
        match rest with
        | '+' :: r => (['+'], r)
        | '-' :: r => (['-'], r)
        | _ => ([], rest)
      let ds := after.takeWhile Char.isDigit
      if ds.isEmpty then [] else e :: sign ++ ds
    else []
  | [] => []

/-- A number, a period, or in some dialects a word that starts with digits. -/
def number (d : Dialect) (previous : Option Token) (cs : List Char) : Reading :=
  if cs.head? == some '.' && cs[1]? == some '_' then
    if previous.any Token.isWord then .ok (.symbol ".", 1) else .error ("Unexpected character '_'", 0)
  else
    let whole := digits d false cs
    let afterWhole := cs.drop whole.length
    if whole == ['0'] && afterWhole.head? == some 'x' then
      let hex := digits d true (afterWhole.drop 1)
      .ok (.hex (String.ofList hex), hex.length + 2)
    else
      let point := if afterWhole.head? == some '.' then ['.'] else []
      let start := whole ++ point
      if start == ['.'] && numericWords d && previous.any Token.isWord then .ok (.symbol ".", 1)
      else
        let mantissa := start ++ digits d false (cs.drop start.length)
        if mantissa == ['.'] then .ok (.symbol ".", 1)
        else
          let isMarked := match cs.drop mantissa.length with | 'e' :: _ | 'E' :: _ => true | _ => false
          let exp := exponent (cs.drop mantissa.length)
          let text := mantissa ++ exp
          let after := cs.drop text.length
          let tail := after.takeWhile (isIdentPart d)
          if numericWords d && !isMarked && !tail.isEmpty then
            .ok (.plainWord (text ++ tail), text.length + tail.length)
          else if numericWords d && isMarked && previous == some (.symbol ".") then
            .ok (.plainWord text, text.length)
          else if after.head? == some 'L' then .ok (.number (String.ofList text) true, text.length + 1)
          else .ok (.number (String.ofList text) false, text.length)

/-! ## Operators -/

/-- An operator that `cs` begins with; in some dialects more operator characters join it. -/
def operator (d : Dialect) (spelling canonical : String) (cs : List Char) : Reading :=
  let length := spelling.length
  let more := (cs.drop length).takeWhile (isOperatorPart d)
  if more.isEmpty then .ok (.symbol canonical, length)
  else .ok (.customOperator (canonical ++ String.ofList more), length + more.length)

def plain (text : String) : Reading := .ok (.symbol text, text.length)

/-- Operators that are read as they stand, longest first, with the text they are known by. -/
def fixedOperators : List (String × String) :=
  [("=>", "=>"), ("==", "=="), ("=", "="), ("!=", "<>"), ("!!", "!!"), ("!~~*", "!~~*"), ("!~~", "!~~"), ("!~*", "!~*"),
    ("!~", "!~"), ("!", "!"), ("::", "::"), (":=", ":="), (":", ":"), ("^@", "^@"), ("^", "^"), ("(", "("), (")", ")"),
    (",", ","), (";", ";"), ("\\", "\\"), ("[", "["), ("]", "]"), ("+", "+"), ("*", "*"), ("\x7b", "\x7b"),
    ("\x7d", "\x7d")]

/-- Operators that more operator characters may join, longest first. -/
def openOperators : List (String × String) :=
  [("->>", "->>"), ("->", "->"), ("-", "-"), ("%", "%"), ("||/", "||/"), ("|/", "|/"), ("||", "||"), ("|", "|"),
    ("<=>", "<=>"), ("<=", "<="), ("<>", "<>"), ("<<", "<<"), ("<@", "<@"), ("<", "<"), (">=", ">="), (">>", ">>"),
    (">", ">"), ("&&", "&&"), ("&", "&"), ("~~*", "~~*"), ("~~", "~~"), ("~*", "~*"), ("~", "~"), ("#>>", "#>>"),
    ("#>", "#>"), ("#-", "#-"), ("#", "#")]

/-- Operators on geometric values that more operator characters may join. The second spelling of one of them is
known, and extended, by the first. -/
def geometricOperators : List (String × String) :=
  [("|&>", "|&>"), ("|>>", "|>>"), ("<<|", "<<|"), ("<|", "<<|"), ("<->", "<->"), ("<^", "<^"), (">^", ">^"),
    ("&<", "&<"), ("~=", "~=")]

/-- Texts that more operator characters must follow to make an operator. -/
def operatorStarts : List String := ["|&", "|>", "<-", "@-"]

/-- The longest operator of a table that `cs` begins with. -/
def operatorIn? (table : List (String × String)) (cs : List Char) : Option (String × String) :=
  table.find? fun entry => entry.1.toList.isPrefixOf cs

/-- A percent sign before a blank stands alone. -/
def standsAlone (cs : List Char) : Bool :=
  match cs with
  | '%' :: c :: _ => Text.isBlank c
  | '#' :: c :: _ => c == ' '
  | _ => false

/-- What begins with `#` where no comment does. -/
def hash (d : Dialect) (cs : List Char) : Reading :=
  match cs with
  | _ :: next :: rest =>
    if next == '-' || next == '>' || next == ' ' || !isIdentStart d '#' then
      if next == ' ' then plain "#"
      else if d == .postgresql && next == '#' then operator d "##" "##" cs
      else
        match operatorIn? openOperators cs with
        | some (spelling, canonical) => operator d spelling canonical cs
        | none => plain "#"
    else word d ['#', next] rest
  | _ => plain "#"

/-- What begins with `@`. -/
def atSign (d : Dialect) (cs : List Char) : Reading :=
  match cs with
  | _ :: '>' :: _ => plain "@>"
  | _ :: '?' :: _ => plain "@?"
  | _ :: '@' :: rest =>
    match rest with
    | c :: after =>
      if d == .postgresql || c == ' ' || !isIdentStart d '@' then plain "@@" else word d ['@', '@', c] after
    | [] => plain "@@"
  | _ :: c :: rest =>
    if c == ' ' || c == '\x27' || c == '"' || c == '\x60' || !isIdentStart d '@' then plain "@"
    else word d ['@', c] rest
  | _ => plain "@"

/-- An operator together with the character after it, if there is one. -/
def swallowing (text : String) (cs : List Char) : Reading :=
  .ok (.symbol text, min (text.length + 1) cs.length)

/-- What begins with `?` where that is an operator; alone it takes the character after it along. -/
def question (cs : List Char) : Reading :=
  match cs with
  | _ :: '|' :: '|' :: _ => plain "?||"
  | _ :: '|' :: _ => plain "?|"
  | _ :: '&' :: _ => plain "?&"
  | _ :: '-' :: '|' :: _ => plain "?-|"
  | _ :: '-' :: _ => plain "?-"
  | _ :: '#' :: _ => plain "?#"
  | _ => swallowing "?" cs

/-- The start of an operator that needs more operator characters. -/
def incomplete (d : Dialect) (start : String) (cs : List Char) : Reading :=
  let more := (cs.drop start.length).takeWhile (isOperatorPart d)
  if more.isEmpty then .error ("Expected a valid binary operator after '" ++ start ++ "'", start.length)
  else .ok (.customOperator (start ++ String.ofList more), start.length + more.length)

/-- Operators on geometric values; a text that begins like one of them and is none is refused. -/
def geometric? (d : Dialect) (cs : List Char) : Option Reading :=
  match cs with
  | '&' :: '<' :: '|' :: _ => some (plain "&<|")
  | '&' :: '>' :: _ => some (swallowing "&>" cs)
  | '@' :: '-' :: '@' :: _ => some (plain "@-@")
  | _ =>
    match operatorIn? geometricOperators cs with
    | some (spelling, canonical) => some (operator d spelling canonical cs)
    | none => (operatorStarts.find? fun start => start.toList.isPrefixOf cs).map fun start => incomplete d start cs

/-! ## One token -/

/-- A word or a literal with a letter before its quote. -/
def lettered (d : Dialect) (c : Char) (cs : List Char) : Option Reading :=
  match cs with
  | '\x27' :: rest =>
    if (c == 'b' || c == 'B') && hasByteStrings d then some (literal (.bytes '\x27') '\x27' .plain 1 rest)
    else if (c == 'r' || c == 'R') && hasRawStrings d then some (raw '\x27' rest)
    else if c == 'n' || c == 'N' then some (literal .national '\x27' (stringBackslash d) 1 rest)
    else if (c == 'e' || c == 'E') && hasEscapedStrings d then
      match escapedBody 0 rest with
      | some (body, count) => some (.ok (.escaped (String.ofList body), count + 2))
      | none => some (.error ("Unterminated encoded string literal", 0))
    else if c == 'x' || c == 'X' then some (literal .hex '\x27' (hexBackslash d) 1 rest)
    else none
  | '"' :: rest =>
    if (c == 'b' || c == 'B') && hasByteStrings d then some (literal (.bytes '"') '"' .plain 1 rest)
    else if (c == 'r' || c == 'R') && hasRawStrings d then some (raw '"' rest)
    else none
  | '&' :: '\x27' :: rest =>
    if (c == 'u' || c == 'U') && hasEscapedStrings d then
      some ((unicodeBody 0 3 rest).map fun (body, count) => (.unicode (String.ofList body), count))
    else none
  | _ => none

/-- Letters that are tried as the start of a special literal, and make a word otherwise. -/
def mayStartLiteral (d : Dialect) (c : Char) : Bool :=
  match c with
  | 'b' | 'B' => hasByteStrings d
  | 'r' | 'R' => hasRawStrings d
  | 'e' | 'E' | 'u' | 'U' => hasEscapedStrings d
  | 'n' | 'N' | 'x' | 'X' => true
  | _ => false

/-- The blank or comment that `c :: cs` begins with: its length, or a complaint. -/
def blank? (d : Dialect) (c : Char) (cs : List Char) : Option (Except (String × Nat) Nat) :=
  if c == ' ' || c == '\t' || c == '\n' then some (.ok 1)
  else if c == '\r' then some (.ok (if cs.head? == some '\n' then 2 else 1))
  else if c == '-' && cs.head? == some '-' && (d != .mysql || cs[1]? == some ' ') then
    some (.ok (lineComment d (cs.drop 1) + 2))
  else if c == '/' && cs.head? == some '*' then
    match commentBody (nestsComments d) 1 (cs.drop 1) with
    | some count => some (.ok (count + 2))
    | none => some (.error ("Unexpected EOF while in a multi-line comment", cs.length + 1))
  else if c == '#' && d == .mysql then some (.ok (lineComment d cs + 1))
  else none

/-- A token that is no blank. -/
def solid (d : Dialect) (previous : Option Token) (c : Char) (cs : List Char) : Reading :=
  match if mayStartLiteral d c then lettered d c cs else none with
  | some reading => reading
  | none =>
    if mayStartLiteral d c then word d [c] cs
    else if c == '\x27' then literal .string c (stringBackslash d) 0 cs
    else
      match identQuote? d c with
      | some closing => quotedIdent c closing cs
      | none =>
        if c == '"' then literal .doubleQuoted c (stringBackslash d) 0 cs
        else if c.isDigit || c == '.' then number d previous (c :: cs)
        else if c == '#' then hash d (c :: cs)
        else
          match if d == .postgresql then geometric? d (c :: cs) else none with
          | some reading => reading
          | none =>
            if c == '@' then atSign d (c :: cs)
            else if c == '?' then
              if d == .postgresql then question (c :: cs)
              else
                let (ns, count) := takeCount Text.isNumeral cs
                .ok (.placeholder (String.ofList ('?' :: ns)), count + 1)
            else if c == '/' then
              if d == .generic && cs.head? == some '/' then plain "//" else plain "/"
            else if standsAlone (c :: cs) then plain c.toString
            else
              match operatorIn? fixedOperators (c :: cs) with
              | some (spelling, canonical) => .ok (.symbol canonical, spelling.length)
              | none =>
                match operatorIn? openOperators (c :: cs) with
                | some (spelling, canonical) => operator d spelling canonical (c :: cs)
                | none =>
                  if isIdentStart d c then word d [c] cs
                  else if c == '$' then dollar d cs
                  else if Text.isBlank c then .ok (.blank, 1)
                  else .ok (.other c, 1)

/-- The token that `c :: cs` begins with, after the token `previous`. -/
def nextToken (d : Dialect) (previous : Option Token) (c : Char) (cs : List Char) : Reading :=
  match blank? d c cs with
  | some (.ok count) => .ok (.blank, count)
  | some (.error e) => .error e
  | none => solid d previous c cs

/-! ## Whole texts -/

/-- The place after one more character. -/
def advance (l : Location) (c : Char) : Location :=
  if c == '\n' then ⟨l.line + 1, 1⟩ else ⟨l.line, l.column + 1⟩

/-- The tokens from `l` on; `skip` characters belong to a token already read. -/
def run (d : Dialect) (previous : Option Token) (skip : Nat) (l : Location) :
    List Char → Except Error (List Lexeme)
  | [] => .ok []
  | c :: cs =>
    match skip with
    | k + 1 => run d previous k (advance l c) cs
    | 0 =>
      match nextToken d previous c cs with
      | .error (message, offset) =>
        .error (.ofMessage (message ++ (((c :: cs).take offset).foldl advance l).suffix))
      | .ok (token, count) =>
        match run d (some token) (count - 1) (advance l c) cs with
        | .error e => .error e
        | .ok rest => .ok (⟨token, l⟩ :: rest)

/-- The tokens of a text, blanks and comments included. -/
def tokenize (d : Dialect) (text : String) : Except Error (List Lexeme) :=
  run d none 0 ⟨1, 1⟩ text.toList

end SqlTemplate.Lexer
