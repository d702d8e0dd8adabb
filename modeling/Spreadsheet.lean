import Spreadsheet.Address.Name
import Spreadsheet.Decimal.Notation
import Spreadsheet.Decimal.Numeral
import Spreadsheet.Formula.Expr
import Spreadsheet.Formula.Lexer
import Spreadsheet.Formula.Parser
import Spreadsheet.Sheet.Basic
import Spreadsheet.Text.Alphabetic
import Spreadsheet.Text.Blank
import Spreadsheet.Text.Digits
import Spreadsheet.Text.Numeric
import Spreadsheet.Text.Quoted
import Spreadsheet.Json.NumberLiteral
import Spreadsheet.Json.StringLiteral
import Spreadsheet.Json.Token
import Spreadsheet.Json.Layout
import Spreadsheet.Save.Basic
import Spreadsheet.Sheet.Saved
import Spreadsheet.Sheet.Table
import Spreadsheet.Config.Basic
import Spreadsheet.Config.Reader
import Spreadsheet.Host.Basic
import Spreadsheet.Host.FileTree
import Spreadsheet.Host.Session
import Spreadsheet.CommandLine.Edit
import Spreadsheet.CommandLine.Options
import Spreadsheet.CommandLine.Run
import Spreadsheet.Main
import Spreadsheet.Proofs.Store.Entries
import Spreadsheet.Proofs.Store.Links
import Spreadsheet.Proofs.Store.Changes
import Spreadsheet.Proofs.Store.Affected
import Spreadsheet.Proofs.Store.Dropping
import Spreadsheet.Proofs.Walk.Steps
import Spreadsheet.Proofs.Walk.Nesting
import Spreadsheet.Proofs.Walk.Run
import Spreadsheet.Proofs.Walk.Awaited
import Spreadsheet.Proofs.Formula.References
import Spreadsheet.Proofs.Sheet.History
import Spreadsheet.Proofs.Walk.Query
import Spreadsheet.Proofs.Walk.Marked
import Spreadsheet.Proofs.Sheet.Representation
import Spreadsheet.Proofs.Sheet.Recalculation
import Spreadsheet.Proofs.Sheet.Spared
import Spreadsheet.Proofs.Sheet.Memoization
import Spreadsheet.Proofs.Sheet.Repaint
import Spreadsheet.Proofs.Formula.Precedence
import Spreadsheet.Proofs.Formula.Strictness
import Spreadsheet.Proofs.Sheet.Cycles
import Spreadsheet.Proofs.Sheet.SingleCycles
import Spreadsheet.Proofs.Sheet.CycleMessages
import Spreadsheet.Proofs.Sheet.Listing
import Spreadsheet.Proofs.Sheet.Grid
import Spreadsheet.Proofs.Formula.Grammar
import Spreadsheet.Proofs.Formula.Building
import Spreadsheet.Proofs.Formula.Items
import Spreadsheet.Proofs.Formula.Signs
import Spreadsheet.Proofs.Formula.Arguments
import Spreadsheet.Proofs.Formula.Brackets
import Spreadsheet.Proofs.Formula.Placement
import Spreadsheet.Proofs.Formula.Unmatched
import Spreadsheet.Proofs.Formula.Conservation
import Spreadsheet.Proofs.Formula.Levels
import Spreadsheet.Proofs.Address.Naming
import Spreadsheet.Proofs.Formula.Readers
import Spreadsheet.Proofs.Formula.Words
import Spreadsheet.Proofs.Formula.Printing
import Spreadsheet.Proofs.Formula.Faults
import Spreadsheet.Proofs.Json.Literals
import Spreadsheet.Proofs.Json.Reading
import Spreadsheet.Proofs.Save.Documents
import Spreadsheet.Proofs.Save.Reload
import Spreadsheet.Proofs.Sheet.OutOfDate
import Spreadsheet.Proofs.Walk.Resolution
import Spreadsheet.Proofs.Walk.Rings
import Spreadsheet.Proofs.Walk.Trail
import Spreadsheet.Proofs.Sheet.Remembering
import Spreadsheet.Proofs.Sheet.Queries
import Spreadsheet.Proofs.Walk.Settled
import Spreadsheet.Proofs.Walk.Concurring
import Spreadsheet.Proofs.Sheet.Concurring
import Spreadsheet.Proofs.Sheet.Abandoned
import Spreadsheet.Proofs.Save.Unqueried
import Spreadsheet.Proofs.Save.Replay
import Spreadsheet.Proofs.Host.Files
import Spreadsheet.Proofs.CommandLine.Arguments
import Spreadsheet.Proofs.CommandLine.Steps
import Spreadsheet.Proofs.CommandLine.Reopening
import Spreadsheet.Proofs.CommandLine.Effects
import Spreadsheet.Proofs.CommandLine.Written
import Spreadsheet.Proofs.Formula.Messages
import Spreadsheet.Proofs.CommandLine.Evaluation
import Spreadsheet.Proofs.Formula.NamedReferences
import Spreadsheet.Proofs.Formula.Numerals
import Spreadsheet.Proofs.Formula.DisplayedNumbers
import Spreadsheet.Proofs.Sheet.Tables
import Spreadsheet.Proofs.Sheet.Bars
