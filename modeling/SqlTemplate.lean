import SqlTemplate.Analysis
import SqlTemplate.Answer
import SqlTemplate.CommandLine.Arguments
import SqlTemplate.CommandLine.Help
import SqlTemplate.CommandLine.Run
import SqlTemplate.Condition.Classify
import SqlTemplate.Condition.Collect
import SqlTemplate.Condition.Node
import SqlTemplate.Condition.Operator
import SqlTemplate.Dialect
import SqlTemplate.Error
import SqlTemplate.Field
import SqlTemplate.Files
import SqlTemplate.Grammar.Alteration
import SqlTemplate.Grammar.Basic
import SqlTemplate.Grammar.Block
import SqlTemplate.Grammar.Call
import SqlTemplate.Grammar.Change
import SqlTemplate.Grammar.Column
import SqlTemplate.Grammar.DataType
import SqlTemplate.Grammar.Definition
import SqlTemplate.Grammar.Expr
import SqlTemplate.Grammar.Operand
import SqlTemplate.Grammar.Precedence
import SqlTemplate.Grammar.Privilege
import SqlTemplate.Grammar.Query
import SqlTemplate.Grammar.Select
import SqlTemplate.Grammar.Setting
import SqlTemplate.Grammar.Start
import SqlTemplate.Grammar.Statement
import SqlTemplate.Grammar.Table
import SqlTemplate.Grammar.Utility
import SqlTemplate.Json.Basic
import SqlTemplate.Json.Read
import SqlTemplate.Kind
import SqlTemplate.Main
import SqlTemplate.Merge.Attach
import SqlTemplate.Merge.Basic
import SqlTemplate.Merge.Binding
import SqlTemplate.Merge.Fragment
import SqlTemplate.Name
import SqlTemplate.Output.Encode
import SqlTemplate.Output.Format
import SqlTemplate.Output.Markdown
import SqlTemplate.Parameter
import SqlTemplate.Proofs.Condition.Truth
import SqlTemplate.Proofs.Grammar.Expr
import SqlTemplate.Proofs.Grammar.RoundTrip
import SqlTemplate.Proofs.Grammar.Statement
import SqlTemplate.Proofs.Grammar.Steps
import SqlTemplate.Proofs.Merge.Basic
import SqlTemplate.Proofs.Merge.Conditions
import SqlTemplate.Proofs.Merge.Layout
import SqlTemplate.Proofs.Merge.Markers
import SqlTemplate.Proofs.Merge.Reread
import SqlTemplate.Proofs.Merge.Tables
import SqlTemplate.Proofs.Parameter.Pieces
import SqlTemplate.Proofs.Table.Occurrences
import SqlTemplate.Proofs.Table.Roles
import SqlTemplate.Proofs.Template.Agreement
import SqlTemplate.Proofs.Template.Contested
import SqlTemplate.Proofs.Template.Read
import SqlTemplate.Proofs.Template.Scan
import SqlTemplate.Proofs.Template.Tokens
import SqlTemplate.Proofs.Token.Lexer
import SqlTemplate.Proofs.Token.Reads
import SqlTemplate.Proofs.Token.Words
import SqlTemplate.Proofs.Tree.Plain
import SqlTemplate.Session
import SqlTemplate.Table.Reference
import SqlTemplate.Table.Resolve
import SqlTemplate.Template.Origin
import SqlTemplate.Template.Parse
import SqlTemplate.Template.Settings
import SqlTemplate.Text.Chars
import SqlTemplate.Text.Ranges
import SqlTemplate.Token.Basic
import SqlTemplate.Token.Keyword
import SqlTemplate.Token.Lexer
import SqlTemplate.Tree.Basic
import SqlTemplate.Tree.Clause
import SqlTemplate.Tree.Form
import SqlTemplate.Tree.Print
import SqlTemplate.Tree.Value
import SqlTemplate.Tree.Walk
import SqlTemplate.Proofs.Condition.Predicates
import SqlTemplate.Proofs.Merge.Conjunction
import SqlTemplate.Proofs.Merge.Fragment
import SqlTemplate.Proofs.Merge.Frame
import SqlTemplate.Proofs.Table.Scoping
import SqlTemplate.Proofs.CommandLine.Run
import SqlTemplate.Proofs.Condition.Atoms
import SqlTemplate.Proofs.Condition.Summary
import SqlTemplate.Proofs.Text.Distinct
import SqlTemplate.Proofs.Tree.Walk
import SqlTemplate.Proofs.Condition.Rows
import SqlTemplate.Proofs.Condition.Parentheses
import SqlTemplate.Proofs.Merge.Accepted
import SqlTemplate.Proofs.Merge.Bindings
import SqlTemplate.Proofs.Name.Parts
import SqlTemplate.Proofs.Table.FirstWins
import SqlTemplate.Proofs.Table.Identity
import SqlTemplate.Proofs.Table.JoinGraph
import SqlTemplate.Proofs.Table.Own
import SqlTemplate.Proofs.Condition.DocumentOrder
import SqlTemplate.Proofs.Parameter.Numbering
import SqlTemplate.Proofs.Template.Lines
import SqlTemplate.Proofs.Template.Segments
import SqlTemplate.Proofs.Condition.InsertedRows
import SqlTemplate.Proofs.Field.Uses
import SqlTemplate.Proofs.Kind.MainBody
import SqlTemplate.Proofs.Name.Column
import SqlTemplate.Proofs.Name.Identifier
import SqlTemplate.Proofs.Parameter.Boundaries
import SqlTemplate.Proofs.Tree.Nested
import SqlTemplate.Proofs.Error.Location
