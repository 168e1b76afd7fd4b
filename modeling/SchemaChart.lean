import SchemaChart.Text.Basic
import SchemaChart.Text.Mark
import SchemaChart.Text.Composition
import SchemaChart.Text.Blank
import SchemaChart.Text.Range
import SchemaChart.Text.Unit
import SchemaChart.Text.Word
import SchemaChart.Text.Printable
import SchemaChart.Text.Digit
import SchemaChart.Text.Case
import SchemaChart.Text.Upper
import SchemaChart.Text.Lower
import SchemaChart.Text.PlainForm
import SchemaChart.Text.Fold
import SchemaChart.Text.Direction
import SchemaChart.Text.Hex
import SchemaChart.Text.Quoted
import SchemaChart.Text.Utf8
import SchemaChart.Text.Percent
import SchemaChart.Text.Punycode
import SchemaChart.Number.Binary64
import SchemaChart.Number.Shortest
import SchemaChart.Number.Writing
import SchemaChart.Number.Reading
import SchemaChart.Json.Basic
import SchemaChart.Json.Writing
import SchemaChart.Json.Reading
import SchemaChart.Json.Encoding
import SchemaChart.Script.Phrase
import SchemaChart.Script.Name
import SchemaChart.Script.Comment
import SchemaChart.Script.Scan
import SchemaChart.Script.Statement
import SchemaChart.Script.Clause
import SchemaChart.Log
import SchemaChart.Log.Threshold
import SchemaChart.Schema.Basic
import SchemaChart.Schema.Describe
import SchemaChart.Schema.Notice
import SchemaChart.Script.ColumnClause
import SchemaChart.Script.KeyClause
import SchemaChart.Schema.Reading
import SchemaChart.Schema.Document
import SchemaChart.Schema.Summary
import SchemaChart.Diagram.Identifier
import SchemaChart.Diagram.Format
import SchemaChart.Diagram.Graph
import SchemaChart.Diagram.Chart
import SchemaChart.Command.Folder
import SchemaChart.Command.Options
import SchemaChart.Command.Conversion
import SchemaChart.Command.Run
import SchemaChart.Vision.Fence
import SchemaChart.Vision.Client
import SchemaChart.Settings.Basic
import SchemaChart.Settings.Hosting
import SchemaChart.Service.Host
import SchemaChart.Service.Address
import SchemaChart.Service.Locator
import SchemaChart.Service.Target
import SchemaChart.Service.Route
import SchemaChart.Service.Request
import SchemaChart.Service.Response
import SchemaChart.Service.Handling
import SchemaChart.Service.Start
import SchemaChart.Main
import SchemaChart.Proofs.Results
import SchemaChart.Proofs.Letters
import SchemaChart.Proofs.Readers
import SchemaChart.Proofs.Trimming
import SchemaChart.Proofs.ClauseKinds
import SchemaChart.Proofs.Header
import SchemaChart.Proofs.Closing
import SchemaChart.Proofs.Scanning
import SchemaChart.Proofs.Search
import SchemaChart.Proofs.Consistency
import SchemaChart.Proofs.Joining
import SchemaChart.Proofs.Layout
import SchemaChart.Proofs.Tidy
import SchemaChart.Proofs.Nesting
import SchemaChart.Proofs.Capitals
import SchemaChart.Proofs.References
import SchemaChart.Proofs.Clauses
import SchemaChart.Proofs.RoundTrip
import SchemaChart.Proofs.Comments
import SchemaChart.Proofs.Declarations
import SchemaChart.Proofs.Bytes
import SchemaChart.Proofs.MachineOutput
import SchemaChart.Proofs.LineEnds
import SchemaChart.Proofs.Documents
import SchemaChart.Proofs.SchemaDocuments
import SchemaChart.Proofs.Interfaces
import SchemaChart.Proofs.QuotedNames
import SchemaChart.Proofs.RelationNames
import SchemaChart.Proofs.Tokens
import SchemaChart.Proofs.Figures
import SchemaChart.Proofs.Drawing
import SchemaChart.Proofs.Connections
import SchemaChart.Proofs.EdgeLabels
import SchemaChart.Proofs.NodeNames
import SchemaChart.Proofs.ColumnTypes
import SchemaChart.Proofs.ClauseTraces
import SchemaChart.Proofs.ParseAnswers
import SchemaChart.Proofs.ImageAnswers
import SchemaChart.Proofs.NormalForm
import SchemaChart.Proofs.Matching
import SchemaChart.Proofs.WholeClauses
import SchemaChart.Proofs.LiteralContents
import SchemaChart.Proofs.Cuts
import SchemaChart.Proofs.Rejoining
import SchemaChart.Proofs.Fences
import SchemaChart.Proofs.CompositeKeys
