/-
The kind of a statement: what it does to rows, as its tree shows, or for a definition the keyword it
begins with.
-/
import SqlTemplate.Tree.Basic

namespace SqlTemplate

inductive Kind where
  | select
  | insert
  | update
  | delete
  | create
  | drop
  | alter
  | truncate
deriving DecidableEq

namespace Kind

def text : Kind → String
  | .select => "SELECT"
  | .insert => "INSERT"
  | .update => "UPDATE"
  | .delete => "DELETE"
  | .create => "CREATE"
  | .drop => "DROP"
  | .alter => "ALTER"
  | .truncate => "TRUNCATE"

/-- Whether statements of this kind read or change rows. -/
def isDml : Kind → Bool
  | .select | .insert | .update | .delete => true
  | _ => false

/-- The kind of a query is that of its body. -/
def ofBody : SetExpr → Kind
  | .insert _ => .insert
  | .update _ => .update
  | _ => .select

def ofKeyword? : String → Option Kind
  | "CREATE" => some .create
  | "DROP" => some .drop
  | "ALTER" => some .alter
  | "TRUNCATE" => some .truncate
  | _ => none

/-- The first word of a token stream. -/
def leadingWord? : List Lexeme → Option Word
  | [] => none
  | ⟨.word w, _⟩ :: _ => some w
  | _ :: rest => leadingWord? rest

def unrecognized (word : String) : Error :=
  .unsupported ("statement `" ++ word ++ "` is not a recognized kind")

/-- The kind of a statement that neither reads nor changes rows. -/
def ofTokens (tokens : List Lexeme) : Except Error Kind :=
  match leadingWord? tokens with
  | some w =>
    match w.keyword.bind ofKeyword? with
    | some k => .ok k
    | none => .error (unrecognized (Text.capitals w.text))
  | none => .error (unrecognized "")

end Kind

/-- The kind of a statement with these tokens. -/
def Statement.kind (st : Statement) (tokens : List Lexeme) : Except Error Kind :=
  match st with
  | .query q => .ok (Kind.ofBody q.body)
  | .insert _ => .ok .insert
  | .update _ => .ok .update
  | .delete _ => .ok .delete
  | .other => Kind.ofTokens tokens

end SqlTemplate
