/-
Character classes and the small text operations that the rest of the library shares: blanks,
letters and numerals in the sense of Unicode, ASCII case folding, trimming and joining.
-/
import SqlTemplate.Text.Ranges

namespace SqlTemplate.Text

/-! ## Classes -/

def inRanges (ranges : Array (Nat × Nat)) (n : Nat) : Bool :=
  ranges.any fun r => r.1 ≤ n && n ≤ r.2

/-- White space: the Unicode property White_Space. -/
def isBlank (c : Char) : Bool :=
  let n := c.toNat
  (9 ≤ n && n ≤ 13) || n == 32 || n == 0x85 || n == 0xA0 || n == 0x1680 || (0x2000 ≤ n && n ≤ 0x200A) ||
    n == 0x2028 || n == 0x2029 || n == 0x202F || n == 0x205F || n == 0x3000

def isAscii (c : Char) : Bool := c.toNat < 128

/-- A letter of any script. -/
def isLetter (c : Char) : Bool :=
  if isAscii c then c.isAlpha else inRanges letterRanges c.toNat

/-- A numeral of any script, fractions and superscripts included. -/
def isNumeral (c : Char) : Bool :=
  if isAscii c then c.isDigit else inRanges numeralRanges c.toNat

def isAlnum (c : Char) : Bool := isLetter c || isNumeral c

def isHexDigit (c : Char) : Bool :=
  c.isDigit || ('a' ≤ c && c ≤ 'f') || ('A' ≤ c && c ≤ 'F')

/-! ## Case -/

/-- Lower case of the ASCII letters; every other character is kept. -/
def lower (s : String) : String := String.ofList (s.toList.map Char.toLower)

/-- Upper case of the ASCII letters; every other character is kept. -/
def upper (s : String) : String := String.ofList (s.toList.map Char.toUpper)

/-- The upper-case spelling of a character, so far as it is made of ASCII letters. -/
def upperSpelling (c : Char) : List Char :=
  match c.toNat with
  | 0xDF => ['S', 'S']
  | 0x131 => ['I']
  | 0x17F => ['S']
  | 0xFB00 => ['F', 'F']
  | 0xFB01 => ['F', 'I']
  | 0xFB02 => ['F', 'L']
  | 0xFB03 => ['F', 'F', 'I']
  | 0xFB04 => ['F', 'F', 'L']
  | 0xFB05 => ['S', 'T']
  | 0xFB06 => ['S', 'T']
  | _ => [c.toUpper]

/-- A word in capitals, where a letter beyond ASCII counts for the ASCII letters that its upper case is made of: the
spelling by which a keyword is known. -/
def capitals (s : String) : String := String.ofList (s.toList.flatMap upperSpelling)

/-! ## Trimming, cutting, joining -/

def trimLeft (cs : List Char) : List Char := cs.dropWhile isBlank

def trimChars (cs : List Char) : List Char := (trimLeft (trimLeft cs).reverse).reverse

/-- Text without the blanks at both ends. -/
def trim (s : String) : String := String.ofList (trimChars s.toList)

/-- The pieces of `cs` between blanks, none of them empty. -/
def wordsOf : List Char → List (List Char)
  | [] => []
  | c :: cs =>
    if isBlank c then wordsOf cs
    else
      match cs with
      | [] => [[c]]
      | d :: _ =>
        if isBlank d then [c] :: wordsOf cs
        else
          match wordsOf cs with
          | [] => [[c]]
          | w :: ws => (c :: w) :: ws

def join (sep : String) (parts : List String) : String := sep.intercalate parts

/-- List items as they are printed: a comma and a space between them. -/
def commas (parts : List String) : String := join ", " parts

def startsWith (s start : String) : Bool := start.toList.isPrefixOf s.toList

/-- Whether `cs` begins with `start`; the characters after it if so. -/
def dropStart? (start cs : List Char) : Option (List Char) :=
  if start.isPrefixOf cs then some (cs.drop start.length) else none

/-- The first occurrence of each element, in order. -/
def distinct {α : Type} [BEq α] (xs : List α) : List α :=
  (xs.foldl (fun seen x => if seen.contains x then seen else x :: seen) []).reverse

end SqlTemplate.Text
