/-
Reading JSON text. The whole text has to be one value, with nothing but blanks around it.
-/
import SqlTemplate.Json.Basic

namespace SqlTemplate.Json

/-- A reader takes what it reads off the front of a text. -/
abbrev Reader (α : Type) := List Char → Option (α × List Char)

def isSpace (c : Char) : Bool := c == ' ' || c == '\t' || c == '\n' || c == '\r'

def skipSpaces (cs : List Char) : List Char := cs.dropWhile isSpace

def hexValue? (c : Char) : Option Nat :=
  if c.isDigit then some (c.toNat - 48)
  else if 'a' ≤ c && c ≤ 'f' then some (c.toNat - 87)
  else if 'A' ≤ c && c ≤ 'F' then some (c.toNat - 55)
  else none

/-- Four hexadecimal digits. -/
def unit : Reader Nat
  | a :: b :: c :: d :: rest => do
    let n := 4096 * (← hexValue? a) + 256 * (← hexValue? b) + 16 * (← hexValue? c) + (← hexValue? d)
    return (n, rest)
  | _ => none

/-- The character after `\u`; one beyond the basic plane is written as two units. -/
def escapedUnit (cs : List Char) : Option (Char × List Char) := do
  let (high, rest) ← unit cs
  if 0xD800 ≤ high && high < 0xDC00 then
    match rest with
    | '\\' :: 'u' :: more =>
      let (low, after) ← unit more
      if 0xDC00 ≤ low && low < 0xE000 then
        return (Char.ofNat (0x10000 + (high - 0xD800) * 0x400 + (low - 0xDC00)), after)
      else none
    | _ => none
  else if 0xDC00 ≤ high && high < 0xE000 then none
  else return (Char.ofNat high, rest)

/-- The character that a backslash and the text after it mean. -/
def escaped (cs : List Char) : Option (Char × List Char) :=
  match cs with
  | '"' :: rest => some ('"', rest)
  | '\\' :: rest => some ('\\', rest)
  | '/' :: rest => some ('/', rest)
  | 'b' :: rest => some ('\x08', rest)
  | 'f' :: rest => some ('\x0c', rest)
  | 'n' :: rest => some ('\n', rest)
  | 'r' :: rest => some ('\r', rest)
  | 't' :: rest => some ('\t', rest)
  | 'u' :: rest => escapedUnit rest
  | _ => none

/-- The contents of a string after its opening quote. -/
def stringBody : Nat → Reader (List Char)
  | 0, _ => none
  | _ + 1, [] => none
  | n + 1, c :: cs =>
    if c == '"' then some ([], cs)
    else if c == '\\' then do
      let (meant, rest) ← escaped cs
      let (body, after) ← stringBody n rest
      return (meant :: body, after)
    else if c.toNat < 32 then none
    else do
      let (body, after) ← stringBody n cs
      return (c :: body, after)

def digits (cs : List Char) : Option (List Char × List Char) :=
  let ds := cs.takeWhile Char.isDigit
  if ds.isEmpty then none else some (ds, cs.drop ds.length)

/-- The part of a number after its point, if there is one. -/
def fraction (cs : List Char) : Option (List Char × List Char) :=
  match cs with
  | '.' :: rest => (digits rest).map fun (ds, after) => ('.' :: ds, after)
  | _ => some ([], cs)

def exponent (cs : List Char) : Option (List Char × List Char) :=
  match cs with
  | e :: rest =>
    if e == 'e' || e == 'E' then
      match rest with
      | '+' :: more => (digits more).map fun (ds, after) => (e :: '+' :: ds, after)
      | '-' :: more => (digits more).map fun (ds, after) => (e :: '-' :: ds, after)
      | _ => (digits rest).map fun (ds, after) => (e :: ds, after)
    else some ([], cs)
  | [] => some ([], [])

def numberText (cs : List Char) : Option (List Char × List Char) := do
  let (sign, rest) := match cs with | '-' :: rest => (['-'], rest) | _ => ([], cs)
  let (whole, rest) ← digits rest
  if whole.length > 1 && whole.head? == some '0' then none
  else
    let (frac, rest) ← fraction rest
    let (exp, rest) ← exponent rest
    return (sign ++ whole ++ frac ++ exp, rest)

def literal (text : String) (v : Json) (cs : List Char) : Option (Json × List Char) :=
  (Text.dropStart? text.toList cs).map fun rest => (v, rest)

mutual

/-- A value; `fuel` bounds the number of steps and the number of characters is always enough. -/
def value : Nat → Reader Json
  | 0, _ => none
  | fuel + 1, cs =>
    match skipSpaces cs with
    | 'n' :: rest => literal "ull" .null rest
    | 't' :: rest => literal "rue" (.bool true) rest
    | 'f' :: rest => literal "alse" (.bool false) rest
    | '"' :: rest => do
      let (body, after) ← stringBody (rest.length + 1) rest
      return (.string (String.ofList body), after)
    | '[' :: rest =>
      match skipSpaces rest with
      | ']' :: after => some (.array [], after)
      | _ => do
        let (items, after) ← itemsAfter fuel rest
        return (.array items, after)
    | '\x7b' :: rest =>
      match skipSpaces rest with
      | '\x7d' :: after => some (.object [], after)
      | _ => do
        let (fields, after) ← fieldsAfter fuel rest
        return (.object fields, after)
    | cs => do
      let (text, rest) ← numberText cs
      return (.number (String.ofList text), rest)

/-- The items of an array from the next one on, and its closing bracket. -/
def itemsAfter : Nat → Reader (List Json)
  | 0, _ => none
  | fuel + 1, cs => do
    let (v, rest) ← value fuel cs
    match skipSpaces rest with
    | ',' :: more => do
      let (vs, after) ← itemsAfter fuel more
      return (v :: vs, after)
    | ']' :: after => return ([v], after)
    | _ => none

/-- The fields of an object from the next one on, and its closing brace. -/
def fieldsAfter : Nat → Reader (List (String × Json))
  | 0, _ => none
  | fuel + 1, cs =>
    match skipSpaces cs with
    | '"' :: rest => do
      let (name, rest) ← stringBody (rest.length + 1) rest
      match skipSpaces rest with
      | ':' :: rest => do
        let (v, rest) ← value fuel rest
        match skipSpaces rest with
        | ',' :: more => do
          let (fs, after) ← fieldsAfter fuel more
          return ((String.ofList name, v) :: fs, after)
        | '\x7d' :: after => return ([(String.ofList name, v)], after)
        | _ => none
      | _ => none
    | _ => none

end

/-- The value that a text is. -/
def read? (text : String) : Option Json := do
  let cs := text.toList
  let (v, rest) ← value (cs.length + 1) cs
  if (skipSpaces rest).isEmpty then return v else none

end SqlTemplate.Json
