/-
The SQL dialects that templates may be written in, with the properties that do not belong to the
grammar: whether `#` opens a comment, and which statements can take extra joins.
-/
import SqlTemplate.Text.Chars

namespace SqlTemplate

inductive Dialect where
  | generic
  | mysql
  | postgresql
  | sqlite
  | mssql
deriving DecidableEq

namespace Dialect

/-- The dialect that is meant when none is named. -/
def default : Dialect := .mysql

instance : Inhabited Dialect := ⟨default⟩

def name : Dialect → String
  | .generic => "generic"
  | .mysql => "mysql"
  | .postgresql => "postgresql"
  | .sqlite => "sqlite"
  | .mssql => "mssql"

/-- The dialect of exactly this canonical name. -/
def ofCanonical? (text : String) : Option Dialect :=
  [generic, mysql, postgresql, sqlite, mssql].find? (·.name == text)

/-- The dialect that a user's spelling names: blanks around it and the case of ASCII letters do not matter. -/
def ofName? (text : String) : Option Dialect :=
  match Text.lower (Text.trim text) with
  | "generic" | "ansi" => some .generic
  | "mysql" | "mariadb" => some .mysql
  | "postgresql" | "postgres" | "pg" => some .postgresql
  | "sqlite" => some .sqlite
  | "mssql" | "sqlserver" => some .mssql
  | _ => none

def invalidName (text : String) : String := "Invalid SQL dialect: " ++ text

/-- A `#` that opens no placeholder starts a comment to the end of the line. -/
def hashComments (d : Dialect) : Bool := d == .mysql

/-- An UPDATE without FROM can take joins onto its target. -/
def joinsUpdateTarget (d : Dialect) : Bool := d == .mysql

/-- A DELETE can list its targets apart from the joined tables. -/
def multiTableDelete (d : Dialect) : Bool := d == .mysql || d == .mssql

end Dialect

end SqlTemplate
