import Spreadsheet.Command.Basic
import Spreadsheet.Command.Parser
import Spreadsheet.Coord.Ascending
import Spreadsheet.Coord.Basic
import Spreadsheet.Delimited.Detect
import Spreadsheet.Delimited.Dump
import Spreadsheet.Delimited.Load
import Spreadsheet.Delimited.Reader
import Spreadsheet.Delimited.Separator
import Spreadsheet.Delimited.Writer
import Spreadsheet.Dependency.Graph
import Spreadsheet.Dependency.Schedule
import Spreadsheet.Files.Basic
import Spreadsheet.Files.Encoding
import Spreadsheet.Files.Format
import Spreadsheet.Files.Load
import Spreadsheet.Files.Medium
import Spreadsheet.Files.Path
import Spreadsheet.Files.Save
import Spreadsheet.Formula.Eval
import Spreadsheet.Formula.Expr
import Spreadsheet.Formula.Fault
import Spreadsheet.Formula.Function
import Spreadsheet.Formula.Move
import Spreadsheet.Formula.Parser
import Spreadsheet.Formula.Printer
import Spreadsheet.Formula.Token
import Spreadsheet.Number.Binary64
import Spreadsheet.Number.Decimal
import Spreadsheet.Number.Digits
import Spreadsheet.Number.Sum
import Spreadsheet.Proofs.Command.Columns
import Spreadsheet.Proofs.Command.Display
import Spreadsheet.Proofs.Command.Reading
import Spreadsheet.Proofs.Delimited.Detection
import Spreadsheet.Proofs.Delimited.Flattening
import Spreadsheet.Proofs.Delimited.Header
import Spreadsheet.Proofs.Delimited.Limit
import Spreadsheet.Proofs.Delimited.Reading
import Spreadsheet.Proofs.Delimited.RoundTrip
import Spreadsheet.Proofs.Dependency.Adjacency
import Spreadsheet.Proofs.Dependency.Canonical
import Spreadsheet.Proofs.Dependency.Counting
import Spreadsheet.Proofs.Dependency.Depth
import Spreadsheet.Proofs.Dependency.Order
import Spreadsheet.Proofs.Dependency.Path
import Spreadsheet.Proofs.Dependency.Record
import Spreadsheet.Proofs.Dependency.Restriction
import Spreadsheet.Proofs.Dependency.Search
import Spreadsheet.Proofs.Dependency.Worklist
import Spreadsheet.Proofs.Files.Path
import Spreadsheet.Proofs.Files.Writing
import Spreadsheet.Proofs.Formula.Area
import Spreadsheet.Proofs.Formula.Blanks
import Spreadsheet.Proofs.Formula.Brevity
import Spreadsheet.Proofs.Formula.Builtin
import Spreadsheet.Proofs.Formula.Caseless
import Spreadsheet.Proofs.Formula.Comparing
import Spreadsheet.Proofs.Formula.Completeness
import Spreadsheet.Proofs.Formula.Coverage
import Spreadsheet.Proofs.Formula.Definite
import Spreadsheet.Proofs.Formula.Derivation
import Spreadsheet.Proofs.Formula.Evaluable
import Spreadsheet.Proofs.Formula.Evaluation
import Spreadsheet.Proofs.Formula.Extension
import Spreadsheet.Proofs.Formula.Identity
import Spreadsheet.Proofs.Formula.Layout
import Spreadsheet.Proofs.Formula.Lexing
import Spreadsheet.Proofs.Formula.Likeness
import Spreadsheet.Proofs.Formula.Lines
import Spreadsheet.Proofs.Formula.Nodes
import Spreadsheet.Proofs.Formula.Position
import Spreadsheet.Proofs.Formula.Printing
import Spreadsheet.Proofs.Formula.Reading
import Spreadsheet.Proofs.Formula.Recasing
import Spreadsheet.Proofs.Formula.References
import Spreadsheet.Proofs.Formula.Relocation
import Spreadsheet.Proofs.Formula.Replacement
import Spreadsheet.Proofs.Formula.Rereading
import Spreadsheet.Proofs.Formula.Scanning
import Spreadsheet.Proofs.Formula.Soundness
import Spreadsheet.Proofs.Formula.Spelling
import Spreadsheet.Proofs.Formula.Succession
import Spreadsheet.Proofs.Formula.Totality
import Spreadsheet.Proofs.Formula.Translation
import Spreadsheet.Proofs.Formula.WellFormed
import Spreadsheet.Proofs.Number.Longest
import Spreadsheet.Proofs.Number.Numeral
import Spreadsheet.Proofs.Number.Reading
import Spreadsheet.Proofs.Number.Shortest
import Spreadsheet.Proofs.Reference.Letters
import Spreadsheet.Proofs.Reference.Name
import Spreadsheet.Proofs.Session.History
import Spreadsheet.Proofs.Session.Steps
import Spreadsheet.Proofs.Sheet.Cells
import Spreadsheet.Proofs.Sheet.Checked
import Spreadsheet.Proofs.Sheet.Current
import Spreadsheet.Proofs.Sheet.Definite
import Spreadsheet.Proofs.Sheet.Dirty
import Spreadsheet.Proofs.Sheet.Edit
import Spreadsheet.Proofs.Sheet.EntryOrder
import Spreadsheet.Proofs.Sheet.Execution
import Spreadsheet.Proofs.Sheet.Filling
import Spreadsheet.Proofs.Sheet.Finding
import Spreadsheet.Proofs.Sheet.Follow
import Spreadsheet.Proofs.Sheet.Frame
import Spreadsheet.Proofs.Sheet.Growth
import Spreadsheet.Proofs.Sheet.InStep
import Spreadsheet.Proofs.Sheet.Labels
import Spreadsheet.Proofs.Sheet.Lines
import Spreadsheet.Proofs.Sheet.LinkChanges
import Spreadsheet.Proofs.Sheet.Procedure
import Spreadsheet.Proofs.Sheet.Reachable
import Spreadsheet.Proofs.Sheet.Refusal
import Spreadsheet.Proofs.Sheet.Relocation
import Spreadsheet.Proofs.Sheet.Report
import Spreadsheet.Proofs.Sheet.Rewording
import Spreadsheet.Proofs.Sheet.Rows
import Spreadsheet.Proofs.Sheet.Settle
import Spreadsheet.Proofs.Sheet.Shape
import Spreadsheet.Proofs.Sheet.SortOrder
import Spreadsheet.Proofs.Sheet.SortedTexts
import Spreadsheet.Proofs.Sheet.Sorting
import Spreadsheet.Proofs.Sheet.Sound
import Spreadsheet.Proofs.Sheet.Structure
import Spreadsheet.Proofs.Sheet.Succession
import Spreadsheet.Proofs.Sheet.Uncomputed
import Spreadsheet.Proofs.Sheet.Values
import Spreadsheet.Proofs.Sheet.Visited
import Spreadsheet.Proofs.Text.Ascii
import Spreadsheet.Proofs.Text.Capitals
import Spreadsheet.Proofs.Text.Integer
import Spreadsheet.Proofs.Text.Recased
import Spreadsheet.Proofs.Text.Trimmed
import Spreadsheet.Proofs.Text.Words
import Spreadsheet.Proofs.Workbook.Contents
import Spreadsheet.Proofs.Workbook.Extent
import Spreadsheet.Proofs.Workbook.Marker
import Spreadsheet.Proofs.Workbook.RoundTrip
import Spreadsheet.Proofs.Workbook.Saving
import Spreadsheet.Reference.Cell
import Spreadsheet.Reference.ColumnName
import Spreadsheet.Session
import Spreadsheet.Sheet.Basic
import Spreadsheet.Sheet.Build
import Spreadsheet.Sheet.Entry
import Spreadsheet.Sheet.Fault
import Spreadsheet.Sheet.Find
import Spreadsheet.Sheet.Layout
import Spreadsheet.Sheet.Options
import Spreadsheet.Sheet.Recalc
import Spreadsheet.Sheet.Sort
import Spreadsheet.Sheet.Structure
import Spreadsheet.Sheet.View
import Spreadsheet.Table
import Spreadsheet.Text.Blank
import Spreadsheet.Text.Case
import Spreadsheet.Text.CodePoint
import Spreadsheet.Text.Digit
import Spreadsheet.Text.LineEnd
import Spreadsheet.Text.Order
import Spreadsheet.Text.Quoted
import Spreadsheet.Text.Split
import Spreadsheet.Text.Table.Cased
import Spreadsheet.Text.Table.Fold
import Spreadsheet.Text.Table.LetterCase
import Spreadsheet.Text.Table.Lower
import Spreadsheet.Text.Table.Printable
import Spreadsheet.Text.Table.Upper
import Spreadsheet.Text.Table.Word
import Spreadsheet.Value
import Spreadsheet.Workbook.Basic
import Spreadsheet.Workbook.Calendar
import Spreadsheet.Workbook.Content
import Spreadsheet.Workbook.Draft
import Spreadsheet.Workbook.Export
import Spreadsheet.Workbook.Import
import Spreadsheet.Workbook.Serial
