/-
A tree of text files held in memory. A file is known by the names on the way to it; a directory is
there if a file is below it.
-/
import SqlTemplate.Text.Chars

namespace SqlTemplate

/-- The names on the way to a file. -/
abbrev Path := List String

structure Files where
  entries : List (Path × String)

namespace Files

def empty : Files := ⟨[]⟩

/-! ## Paths -/

/-- The pieces of a text between slashes. -/
def pieces : List Char → List (List Char)
  | [] => [[]]
  | c :: cs =>
    if c == '/' then [] :: pieces cs
    else
      match pieces cs with
      | [] => [[c]]
      | p :: ps => (c :: p) :: ps

/-- The names of a path, without those that stay where they are. -/
def names (text : String) : List String :=
  ((pieces text.toList).map String.ofList).filter fun n => n != "" && n != "."

/-- Where a name leads from a directory: two dots go up. -/
def follow (here : Path) (name : String) : Path := if name == ".." then here.dropLast else here ++ [name]

def resolve (text : String) : Path := (names text).foldl follow []

/-- The places that a list of names leads through from `here`, the last one included. -/
def stops (here : Path) : List String → List Path
  | [] => []
  | n :: ns => follow here n :: stops (follow here n) ns

/-- The directories that a path leads through. -/
def directories (text : String) : List Path := (stops [] (names text)).dropLast

/-- Whether a path can only be that of a directory. -/
def endsInDirectory (text : String) : Bool :=
  match (pieces text.toList).getLast? with
  | some last => last.isEmpty || last == ['.'] || last == ['.', '.']
  | none => true

/-! ## Contents -/

def get? (fs : Files) (p : Path) : Option String := (fs.entries.find? (·.1 == p)).map Prod.snd

/-- Whether a file is below this path. -/
def isDirectory (fs : Files) (p : Path) : Bool :=
  p.isEmpty || fs.entries.any fun e => p.isPrefixOf e.1 && p.length < e.1.length

/-- The files with `content` at `p`. -/
def put (fs : Files) (p : Path) (content : String) : Files :=
  if (fs.get? p).isSome then ⟨fs.entries.map fun e => if e.1 == p then (p, content) else e⟩
  else ⟨fs.entries ++ [(p, content)]⟩

/-- The content of the file that a path leads to. -/
def read? (fs : Files) (path : String) : Option String :=
  if endsInDirectory path || !(directories path).all fs.isDirectory then none else fs.get? (resolve path)

/-! ## Writing -/

inductive WriteError where
  | emptyPath
  | noDirectory
  | noFile (path : String)
deriving DecidableEq

def WriteError.message : WriteError → String
  | .emptyPath => "Output path must not be empty"
  | .noDirectory => "Failed to create output directory: a file is in the way"
  | .noFile path => "Failed to write " ++ path ++ ": it cannot be a file"

/-- The files after writing to a path; missing directories are created. -/
def write (fs : Files) (path content : String) : Except WriteError Files :=
  let p := resolve path
  if path.isEmpty then .error .emptyPath
  else if (directories path).any fun d => (fs.get? d).isSome then .error .noDirectory
  else if endsInDirectory path || fs.isDirectory p then .error (.noFile path)
  else .ok (fs.put p content)

end Files

end SqlTemplate
