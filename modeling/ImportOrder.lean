import ImportOrder.Category
import ImportOrder.Check
import ImportOrder.Command
import ImportOrder.Datum
import ImportOrder.Datum.Inline
import ImportOrder.Datum.JsonReader
import ImportOrder.Datum.JsonWriter
import ImportOrder.Datum.Overlay
import ImportOrder.Datum.Tagged
import ImportOrder.Dialect
import ImportOrder.Event
import ImportOrder.Failure
import ImportOrder.Fault
import ImportOrder.Fix
import ImportOrder.Layout
import ImportOrder.Linter
import ImportOrder.Log
import ImportOrder.Main
import ImportOrder.Order
import ImportOrder.Placement
import ImportOrder.Program
import ImportOrder.Project.Files
import ImportOrder.Project.Glob
import ImportOrder.Project.Ignore
import ImportOrder.Project.Path
import ImportOrder.Project.Repository
import ImportOrder.Project.UserPatterns
import ImportOrder.Project.Walk
import ImportOrder.Proofs.Approach
import ImportOrder.Proofs.Arrangement
import ImportOrder.Proofs.Blocks
import ImportOrder.Proofs.Boundary
import ImportOrder.Proofs.BracedLists
import ImportOrder.Proofs.Commands
import ImportOrder.Proofs.Comparing
import ImportOrder.Proofs.Compliance
import ImportOrder.Proofs.Convergence
import ImportOrder.Proofs.Document
import ImportOrder.Proofs.Edits
import ImportOrder.Proofs.FileTree
import ImportOrder.Proofs.Landing
import ImportOrder.Proofs.Lifting
import ImportOrder.Proofs.MaximalRuns
import ImportOrder.Proofs.OneByOne
import ImportOrder.Proofs.OrderedRuns
import ImportOrder.Proofs.Page
import ImportOrder.Proofs.PageCut
import ImportOrder.Proofs.Pass
import ImportOrder.Proofs.Preservation
import ImportOrder.Proofs.Relaying
import ImportOrder.Proofs.Relisting
import ImportOrder.Proofs.Relocation
import ImportOrder.Proofs.Repairing
import ImportOrder.Proofs.Reporting
import ImportOrder.Proofs.Respacing
import ImportOrder.Proofs.RunLayout
import ImportOrder.Proofs.SafeFixes
import ImportOrder.Proofs.Script
import ImportOrder.Proofs.Sessions
import ImportOrder.Proofs.SettingsData
import ImportOrder.Proofs.SingleLift
import ImportOrder.Proofs.StableOrder
import ImportOrder.Proofs.TidyRun
import ImportOrder.Proofs.TidySheet
import ImportOrder.Proofs.TrailingLine
import ImportOrder.Proofs.TreeReading
import ImportOrder.Report
import ImportOrder.Rule
import ImportOrder.Run
import ImportOrder.Settings
import ImportOrder.Settings.Decode
import ImportOrder.Settings.Environment
import ImportOrder.Settings.Fields
import ImportOrder.Settings.Store
import ImportOrder.Settings.Text
import ImportOrder.SourceModule
import ImportOrder.Spacing
import ImportOrder.Statement
import ImportOrder.SyntaxTree
import ImportOrder.SyntaxTree.Reader
import ImportOrder.Text.Braces
import ImportOrder.Text.CaseData
import ImportOrder.Text.ControlSequence
import ImportOrder.Text.Cut
import ImportOrder.Text.Decimal
import ImportOrder.Text.Lowercase
import ImportOrder.Text.PrintData
import ImportOrder.Text.Quoted
import ImportOrder.Text.Space
import ImportOrder.Text.Span
import ImportOrder.Toml.Document
import ImportOrder.Toml.Value
import ImportOrder.Toml.Writer
import ImportOrder.Proofs.RunPartition
import ImportOrder.Proofs.SyntaxErrors
import ImportOrder.Proofs.Comments
import ImportOrder.Proofs.Checking
import ImportOrder.Proofs.TomlText
import ImportOrder.Proofs.SettingsFile
