/-
Clauses that stand beside the expressions and tables of a statement without taking part in the
analyses: DISTINCT and TOP, GROUP BY, windows, ORDER BY, LIMIT, locks, and the like. As with forms, a
clause is known by its kind, which holds all that is not an expression, and by its expressions;
`ClauseKind.render` puts printed expressions into place.
-/
import SqlTemplate.Tree.Form

namespace SqlTemplate

/-- How an ORDER BY expression is sorted, and how gaps in it are filled. -/
structure Direction where
  ascending : Option Bool
  nullsFirst : Option Bool
  fill : Phrase
deriving DecidableEq

/-- An expression followed by its direction; those of a fill come after it. -/
def Direction.phrase (d : Direction) : Phrase :=
  .expr ::
    .words (match d.ascending with | some true => " ASC" | some false => " DESC" | none => "") ::
    .words (match d.nullsFirst with | some true => " NULLS FIRST" | some false => " NULLS LAST" | none => "") :: d.fill

/-- Sort keys: each expression followed by its direction. -/
def sortPhrase (directions : List Direction) : Phrase := Phrase.commas (directions.map Direction.phrase)

/-! ## Windows -/

inductive BoundKind where
  | currentRow
  | unbounded (preceding : Bool)
  | offset (preceding : Bool)
deriving DecidableEq

structure FrameKind where
  units : String
  start : BoundKind
  stop : Option BoundKind
deriving DecidableEq

structure WindowKind where
  name : Option Ident
  partitions : Nat
  directions : List Direction
  frame : Option FrameKind
deriving DecidableEq

/-- A frame bound, and the expressions after it. -/
def BoundKind.render (b : BoundKind) (args : List String) : String × List String :=
  let side (preceding : Bool) := if preceding then " PRECEDING" else " FOLLOWING"
  match b, args with
  | .currentRow, rest => ("CURRENT ROW", rest)
  | .unbounded p, rest => ("UNBOUNDED" ++ side p, rest)
  | .offset p, a :: rest => (a ++ side p, rest)
  | .offset p, [] => (side p, [])

def FrameKind.render (f : FrameKind) (args : List String) : String × List String :=
  let (start, args) := f.start.render args
  match f.stop with
  | none => (f.units ++ " " ++ start, args)
  | some b =>
    let (stop, args) := b.render args
    (f.units ++ " BETWEEN " ++ start ++ " AND " ++ stop, args)

/-- A window in parentheses, and the expressions after those that it takes. -/
def WindowKind.render (w : WindowKind) (args : List String) : String × List String :=
  let name := w.name.toList.map Ident.print
  let partition :=
    if w.partitions == 0 then [] else ["PARTITION BY " ++ Text.commas (args.take w.partitions)]
  let args := args.drop w.partitions
  let (keys, args) := (sortPhrase w.directions).render args
  let order := if w.directions.isEmpty then [] else ["ORDER BY " ++ keys]
  let (frame, args) :=
    match w.frame with
    | none => ([], args)
    | some f => let (text, args) := f.render args; ([text], args)
  ("(" ++ Text.join " " (name ++ partition ++ order ++ frame) ++ ")", args)

/-- What a window is called by, or what it is. -/
inductive WindowRef where
  | named (name : Ident)
  | spec (w : WindowKind)
deriving DecidableEq

def WindowRef.render (w : WindowRef) (args : List String) : String × List String :=
  match w with
  | .named name => (name.print, args)
  | .spec s => s.render args

def renderWindows : List (Ident × WindowRef) → List String → List String
  | [], _ => []
  | (name, w) :: rest, args =>
    let (text, args) := w.render args
    (name.print ++ " AS " ++ text) :: renderWindows rest args

/-! ## Kinds of clauses -/

inductive ClauseKind where
  | distinct
  | distinctOn
  | top (parenthesized percent withTies : Bool)
  | groupBy (all : Bool) (modifiers : List String)
  | windows (definitions : List (Ident × WindowRef))
  | qualify
  | groupingSets (sizes : List Nat)
  | spreadBy (word : String)
  | sortBy (directions : List Direction)
  | preWhere
  | connectBy
  | orderBy (directions : List Direction)
  | limit
  | limitPair
  | limitBy
  | offset (rows : String)
  | fetch (f : Fetch)
  | lock (l : Lock)
  | forWords (text : String)
  | withinGroup (directions : List Direction)
  | filter
  | words (text : String)
  | phrase (pieces : Phrase)
  | separator
  | overflow (filled : Bool) (count : String)
  | overWindow (w : WindowRef)
  | havingBound (bound : String)
  | tableHints
  | onDuplicateKey (targets : List Target)
  | onConflict (target : ConflictTarget) (action : Option (List Target))
deriving DecidableEq

/-- Assignments to targets, one after the other, and the expressions after them. -/
def renderAssignments (targets : List Target) (args : List String) : String × List String :=
  (Text.commas (List.zipWith (fun t a => t.print ++ " = " ++ a) targets args), args.drop targets.length)

namespace ClauseKind

/-- The printed clause, given its printed expressions. -/
def render (k : ClauseKind) (args : List String) : String :=
  match k with
  | .distinct => "DISTINCT"
  | .distinctOn => "DISTINCT ON (" ++ Text.commas args ++ ")"
  | .top parenthesized percent withTies =>
    let quantity := Text.commas args
    "TOP " ++ (if parenthesized then "(" ++ quantity ++ ")" else quantity) ++
      Form.optional percent " PERCENT" ++ Form.optional withTies " WITH TIES"
  | .groupBy all modifiers =>
    "GROUP BY " ++ (if all then "ALL" else Text.commas args) ++
      Form.optional (!modifiers.isEmpty) (" " ++ Text.join " " modifiers)
  | .windows definitions => "WINDOW " ++ Text.commas (renderWindows definitions args)
  | .qualify => "QUALIFY " ++ Text.commas args
  | .groupingSets sizes => "GROUPING SETS (" ++ Text.commas (Form.renderGroups false sizes args) ++ ")"
  | .spreadBy word => word ++ " BY " ++ Text.commas args
  | .sortBy directions => "SORT BY " ++ ((sortPhrase directions).render args).1
  | .preWhere => "PREWHERE " ++ Text.commas args
  | .connectBy => "START WITH " ++ Text.commas (args.take 1) ++ " CONNECT BY " ++ Text.commas (args.drop 1)
  | .orderBy directions => "ORDER BY " ++ ((sortPhrase directions).render args).1
  | .limit => "LIMIT " ++ Text.commas args
  | .limitPair => "LIMIT " ++ Text.commas args
  | .limitBy => "BY " ++ Text.commas args
  | .offset rows => "OFFSET " ++ Text.commas args ++ rows
  | .fetch f => f.print
  | .lock l => l.print
  | .forWords text => "FOR " ++ text
  | .withinGroup directions => "WITHIN GROUP (ORDER BY " ++ ((sortPhrase directions).render args).1 ++ ")"
  | .filter => "FILTER (WHERE " ++ Text.commas args ++ ")"
  | .words text => text
  | .phrase pieces => (pieces.render args).1
  | .separator => "SEPARATOR " ++ Text.commas args
  | .overflow filled count =>
    "ON OVERFLOW TRUNCATE" ++ Form.optional filled (" " ++ Text.commas args) ++ " " ++ count ++ " COUNT"
  | .overWindow w => "OVER " ++ (w.render args).1
  | .havingBound bound => "HAVING " ++ bound ++ " " ++ Text.commas args
  | .tableHints => "WITH (" ++ Text.commas args ++ ")"
  | .onDuplicateKey targets => "ON DUPLICATE KEY UPDATE " ++ (renderAssignments targets args).1
  | .onConflict target action =>
    "ON CONFLICT" ++ target.print ++ " " ++
      (match action with
       | none => "DO NOTHING"
       | some targets =>
         let (sets, rest) := renderAssignments targets args
         "DO UPDATE SET " ++ sets ++ Form.optional (!rest.isEmpty) (" WHERE " ++ Text.commas rest))

end ClauseKind

end SqlTemplate
