import Descriptors.Text
import Descriptors.Decimal
import Descriptors.OrderedMap
import Descriptors.Json.Value
import Descriptors.Json.Reader
import Descriptors.Encoding
import Descriptors.Text.Quoted
import Descriptors.Json.Writer
import Descriptors.Descriptor.Document
import Descriptors.Row
import Descriptors.Text.Case
import Descriptors.Descriptor.Rows
import Descriptors.Kind
import Descriptors.Path
import Descriptors.Layout
import Descriptors.FileSystem
import Descriptors.Log
import Descriptors.Table.Lookup
import Descriptors.Table.Summary
import Descriptors.Catalog
import Descriptors.CommandLine.Vocabulary
import Descriptors.CommandLine.Argument
import Descriptors.CommandLine.Request
import Descriptors.CommandLine.Report
import Descriptors.Main
import Descriptors.Proofs.Outcome
import Descriptors.Proofs.Encoding
import Descriptors.Proofs.OrderedMap
import Descriptors.Proofs.FileSystem
import Descriptors.Proofs.Catalog.Refusal
import Descriptors.Proofs.Json.Literals
import Descriptors.Proofs.Json.Progress
import Descriptors.Proofs.Json.ReadInvariant
import Descriptors.Proofs.Text.Pieces
import Descriptors.Proofs.Json.Written
import Descriptors.Proofs.Json.RoundTrip
import Descriptors.Proofs.Layout
import Descriptors.Proofs.Catalog.Confinement
import Descriptors.Proofs.Descriptor.Document
import Descriptors.Proofs.Json.Parts
import Descriptors.Proofs.Row.Cells
import Descriptors.Proofs.Descriptor.GroupRows
import Descriptors.Proofs.Catalog.Load
import Descriptors.Proofs.Catalog.Log
import Descriptors.Proofs.LineEnds
import Descriptors.Proofs.Catalog.Refinement
import Descriptors.Proofs.CommandLine.Argument
import Descriptors.Proofs.CommandLine.Request
import Descriptors.Proofs.CommandLine.Written
import Descriptors.Proofs.CommandLine.Report
import Descriptors.Proofs.Descriptor.GroupFault
import Descriptors.Proofs.Text.CamelCase
import Descriptors.Proofs.Descriptor.MainRows
import Descriptors.Proofs.Descriptor.MainFault
import Descriptors.Proofs.Json.Canonical
import Descriptors.Proofs.Text.ControlEscape
import Descriptors.Proofs.Json.ExchangedControls
import Descriptors.Proofs.Row.Lines
import Descriptors.Proofs.Row.Objects
import Descriptors.Proofs.Table.Resolution
import Descriptors.Proofs.Table.Stripping
import Descriptors.Proofs.Table.AppendedRows
import Descriptors.Proofs.Table.StripLimit
import Descriptors.Proofs.Table.Summary
import Descriptors.Proofs.Table.Unnamed
import Descriptors.Proofs.Table.EmptyPrefix
import Descriptors.Proofs.Table.LetterCase
import Descriptors.Proofs.Text.BackslashRuns
