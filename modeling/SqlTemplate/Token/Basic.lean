/-
Tokens of SQL text: words, literals, placeholders, punctuation, and the blanks and comments between
them. A token that is punctuation or an operator is known by its canonical text, so that `!=` and
`<>` are one token.
-/
import SqlTemplate.Error
import SqlTemplate.Token.Keyword

namespace SqlTemplate

/-- A word: an identifier or, when it has no quotes and its spelling is in the table, a keyword. -/
structure Word where
  text : String
  quote : Option Char
  keyword : Option String
deriving DecidableEq

inductive Token where
  | word (w : Word)
  | number (text : String) (long : Bool)
  | string (text : String)
  | doubleQuoted (text : String)
  | national (text : String)
  | escaped (text : String)
  | unicode (text : String)
  | hex (text : String)
  | bytes (quote : Char) (text : String)
  | raw (quote : Char) (text : String)
  | tripleRaw (quote : Char) (text : String)
  | dollarQuoted (tag : Option String) (text : String)
  | placeholder (text : String)
  | symbol (text : String)
  | customOperator (text : String)
  | other (c : Char)
  | blank
deriving DecidableEq

namespace Token

def plainWord (cs : List Char) : Token := .word ⟨String.ofList cs, none, Keyword.ofWord? cs⟩

def quotedWord (quote : Char) (cs : List Char) : Token := .word ⟨String.ofList cs, some quote, none⟩

def isWord : Token → Bool
  | .word _ => true
  | _ => false

def isBlank : Token → Bool
  | .blank => true
  | _ => false

/-- The keyword that a token is. -/
def keyword? : Token → Option String
  | .word w => w.keyword
  | _ => none

end Token

/-- A token and the place of its first character. -/
structure Lexeme where
  token : Token
  location : Location
deriving DecidableEq

end SqlTemplate
