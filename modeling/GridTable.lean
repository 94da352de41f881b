import GridTable.Axis
import GridTable.CommandLine.Command
import GridTable.CommandLine.Reading
import GridTable.CommandLine.Running
import GridTable.CommandLine.Word
import GridTable.Dataset.Address
import GridTable.Dataset.Basic
import GridTable.Dataset.Document
import GridTable.Dataset.Lookup
import GridTable.Dataset.Opening
import GridTable.Dataset.Reading
import GridTable.Decimal.Binary
import GridTable.Decimal.Digits
import GridTable.Decimal.Layout
import GridTable.Decimal.Numeral
import GridTable.Decimal.Style
import GridTable.Description
import GridTable.Extraction
import GridTable.Failure.Error
import GridTable.Failure.Fault
import GridTable.Failure.Issue
import GridTable.Failure.Making
import GridTable.FileStore
import GridTable.Filter.Arguments
import GridTable.Filter.Basic
import GridTable.Filter.Checked
import GridTable.Filter.Compact
import GridTable.Filter.Document
import GridTable.Filter.Entry
import GridTable.Filter.Environment
import GridTable.Filter.Kind
import GridTable.Filter.Registry
import GridTable.Finding
import GridTable.IndexSet
import GridTable.Job.Basic
import GridTable.Job.Document
import GridTable.Job.Loading
import GridTable.Job.Processing
import GridTable.Job.Summary
import GridTable.Journal
import GridTable.Json.Block
import GridTable.Json.Coercion
import GridTable.Json.Comparison
import GridTable.Json.Reader
import GridTable.Json.Shown
import GridTable.Json.Value
import GridTable.Json.Writer
import GridTable.Keyed
import GridTable.Logging.Conversion
import GridTable.Logging.DatePattern
import GridTable.Logging.Logbook
import GridTable.Logging.Moment
import GridTable.Logging.Record
import GridTable.Logging.Slot
import GridTable.Logging.Template
import GridTable.Main
import GridTable.Matching
import GridTable.Path
import GridTable.Pieces
import GridTable.Selection
import GridTable.Sorting
import GridTable.Source
import GridTable.Table
import GridTable.Table.Saving
import GridTable.Text.Blank
import GridTable.Text.Capital
import GridTable.Text.DecimalDigit
import GridTable.Text.Fields
import GridTable.Text.LineEnd
import GridTable.Text.Occurrence
import GridTable.Text.Order
import GridTable.Text.Parity
import GridTable.Text.Printable
import GridTable.Text.Quoted
import GridTable.Text.WordCharacter
import GridTable.Proofs.Selection.Choices
import GridTable.Proofs.Selection.Expansion
import GridTable.Proofs.Dataset.Cells
import GridTable.Proofs.Dataset.Sound
import GridTable.Proofs.Dataset.Addresses
import GridTable.Proofs.Extraction.Batches
import GridTable.Proofs.Extraction.Columns
import GridTable.Proofs.Extraction.FullScan
import GridTable.Proofs.Extraction.BatchSize
import GridTable.Proofs.Dataset.OneByOne
import GridTable.Proofs.Extraction.Display
import GridTable.Proofs.Extraction.Blindness
import GridTable.Proofs.Extraction.ReadOrder
import GridTable.Proofs.CommandLine.Ending
import GridTable.Proofs.Extraction.Refusal
import GridTable.Proofs.Extraction.RowLimit
import GridTable.Proofs.Selection.RowOrder
import GridTable.Proofs.Filter.Sense
import GridTable.Proofs.Filter.Compact
import GridTable.Proofs.Filter.Demands
import GridTable.Proofs.Filter.Entry
import GridTable.Proofs.Job.Document
import GridTable.Proofs.Filter.Accepted
import GridTable.Proofs.Filter.Environment
import GridTable.Proofs.Filter.Merging
import GridTable.Proofs.CommandLine.Switches
import GridTable.Proofs.Job.RowLimit
import GridTable.Proofs.CommandLine.Overriding
import GridTable.Proofs.Filter.Multiplicity
import GridTable.Proofs.Filter.Merged
import GridTable.Proofs.Filter.Agreement
import GridTable.Proofs.Job.DryRun
import GridTable.Proofs.Extraction.OwnDimension
import GridTable.Proofs.Selection.InPlace
import GridTable.Proofs.Selection.LastIndex
import GridTable.Proofs.Extraction.PointRows
import GridTable.Proofs.Extraction.WholeArray
import GridTable.Proofs.Job.Limits
