import TerseSql.Statement.Plan
import TerseSql.Settings
import TerseSql.Proofs.Atomic
import TerseSql.Json.Number
import TerseSql.Json.Reader
import TerseSql.Proofs.Lexing.Spelling
import TerseSql.Proofs.Lexing.Characters
import TerseSql.Proofs.Lexing.Number
import TerseSql.Proofs.Lexing.Term
import TerseSql.Proofs.Condition.Rule
import TerseSql.Proofs.Condition.Tree
import TerseSql.Proofs.Blank.Condition
import TerseSql.Proofs.Blank.Shape
import TerseSql.Proofs.Blank.Assignment
import TerseSql.Proofs.Added
import TerseSql.Proofs.Blank.Insertion
import TerseSql.Proofs.Blank.Clause
import TerseSql.Proofs.Lexing.Comment
import TerseSql.Proofs.Comment.Arithmetic
import TerseSql.Proofs.Comment.Line
import TerseSql.Proofs.Comment.Update
import TerseSql.Proofs.Reading.Formula
import TerseSql.Proofs.Reading.Reader
import TerseSql.Proofs.Reading.Sentence
import TerseSql.Proofs.Reading.Literal
import TerseSql.Proofs.Reading.Rule
import TerseSql.Proofs.Reading.Tree
import TerseSql.Proofs.Run
import TerseSql.Proofs.Remnant
import TerseSql.Proofs.Reading.Root
import TerseSql.Proofs.Window.Fragment
import TerseSql.Proofs.Window.Rows
import TerseSql.Proofs.Window.Keyword
import TerseSql.Proofs.Window.Sections
import TerseSql.Proofs.Window.Selection
import TerseSql.Proofs.Window.Position
import TerseSql.Proofs.Window.Conjoined
import TerseSql.Proofs.Window.Merged
import TerseSql.Proofs.Lifted
import TerseSql.Proofs.Filled.Part
import TerseSql.Proofs.Filled.Condition
import TerseSql.Proofs.Extension
import TerseSql.Proofs.Filled.Clause
import TerseSql.Proofs.Mirror.Text
import TerseSql.Proofs.Mirror.Value
import TerseSql.Proofs.Mirror.Condition
import TerseSql.Proofs.Mirror.Source
import TerseSql.Proofs.Mirror.Row
import TerseSql.Proofs.Mirror.Clause
import TerseSql.Proofs.Mirror.Call
import TerseSql.Proofs.Mirror.Run
import TerseSql.Proofs.Chain.Link
import TerseSql.Proofs.Chain.Place
import TerseSql.Proofs.Chain.Window
import TerseSql.Proofs.Name.Path
import TerseSql.Proofs.Name.Qualified
import TerseSql.Proofs.Name.Apart
import TerseSql.Proofs.Insertion.Row
import TerseSql.Proofs.Insertion.Aligned
import TerseSql.Proofs.Insertion.Shared
import TerseSql.Proofs.Joined
import TerseSql.Proofs.Lexing.Backslash
import TerseSql.Proofs.Condition.Grammar
import TerseSql.Proofs.Shorthand.Field
import TerseSql.Proofs.Shorthand.Condition
import TerseSql.Proofs.Shorthand.Clause
import TerseSql.Proofs.Condition.Comment
import TerseSql.Proofs.Operator.Registration
import TerseSql.Proofs.Condition.Balanced
import TerseSql.Proofs.Condition.Nested
import TerseSql.Proofs.Lexing.Squeeze
import TerseSql.Proofs.Operator.Segment
import TerseSql.Proofs.Operator.Paired
import TerseSql.Proofs.Operator.Opposite
import TerseSql.Proofs.Operator.Token
import TerseSql.Proofs.Operator.Padding
import TerseSql.Proofs.Condition.Listed
import TerseSql.Proofs.Lexing.Scan
import TerseSql.Proofs.Condition.Parens
import TerseSql.Proofs.Reading.Predicate
import TerseSql.Proofs.Window.Verbatim
import TerseSql.Proofs.Arithmetic.Grouping
import TerseSql.Proofs.Arithmetic.Reader
import TerseSql.Proofs.Arithmetic.Computed
import TerseSql.Proofs.Reading.Agreement
import TerseSql.Proofs.SharedNames
import TerseSql.Proofs.Insertion.Chained
import TerseSql.Proofs.Window.Around
import TerseSql.Proofs.Chain.Ending
import TerseSql.Proofs.Chain.Respelled
import TerseSql.Proofs.Sorted.Key
import TerseSql.Proofs.Sorted.Fields
import TerseSql.Proofs.Document.Reordered
import TerseSql.Proofs.Expansion
import TerseSql.Proofs.ColumnNames
import TerseSql.Proofs.Dict.History
import TerseSql.Proofs.Shorthand.Complete
