import TypeCatalog.Checked
import TypeCatalog.Command.Answer
import TypeCatalog.Command.Answer.Annotations
import TypeCatalog.Command.Answer.Formats
import TypeCatalog.Command.Answer.Indexed
import TypeCatalog.Command.Answer.Subtypes
import TypeCatalog.Command.Help
import TypeCatalog.Command.Misuse
import TypeCatalog.Command.Request
import TypeCatalog.Command.Run
import TypeCatalog.Command.Scan
import TypeCatalog.Command.Task
import TypeCatalog.Decimal.Layout
import TypeCatalog.Decimal.Reading
import TypeCatalog.Decimal.Shortest
import TypeCatalog.Decimal.Whole
import TypeCatalog.Document.Bytes
import TypeCatalog.Document.Content
import TypeCatalog.Document.Cursor
import TypeCatalog.Document.Fault
import TypeCatalog.Document.Node
import TypeCatalog.Document.Node.Grammar
import TypeCatalog.Document.Reader
import TypeCatalog.Document.Scalar
import TypeCatalog.Document.Token
import TypeCatalog.Document.Token.Lexer
import TypeCatalog.Document.Token.Literal
import TypeCatalog.Document.Token.Plain
import TypeCatalog.Document.Token.Quoted
import TypeCatalog.Document.Token.Tag
import TypeCatalog.Element
import TypeCatalog.Element.Views
import TypeCatalog.Event
import TypeCatalog.Folder
import TypeCatalog.Format
import TypeCatalog.Format.Table
import TypeCatalog.Index
import TypeCatalog.Inspector
import TypeCatalog.Json.Reader
import TypeCatalog.Json.Writer
import TypeCatalog.Knot
import TypeCatalog.Live.Hierarchy
import TypeCatalog.Live.Loader
import TypeCatalog.Live.Modules
import TypeCatalog.Live.Process
import TypeCatalog.Live.Standard
import TypeCatalog.Live.World
import TypeCatalog.Logging.Log
import TypeCatalog.Logging.Record
import TypeCatalog.Main
import TypeCatalog.Ordered
import TypeCatalog.Path
import TypeCatalog.Report
import TypeCatalog.Report.Named
import TypeCatalog.Scalar
import TypeCatalog.Settings
import TypeCatalog.Settings.Checks
import TypeCatalog.Settings.Destination
import TypeCatalog.Settings.Environment
import TypeCatalog.Settings.Given
import TypeCatalog.Settings.Layers
import TypeCatalog.Settings.Load
import TypeCatalog.Snapshot
import TypeCatalog.Snapshot.Classes
import TypeCatalog.Snapshot.Load
import TypeCatalog.Snapshot.Recorded
import TypeCatalog.Storage
import TypeCatalog.Stored
import TypeCatalog.Subtype.Tester
import TypeCatalog.Subtype.Walk
import TypeCatalog.Text.Blank
import TypeCatalog.Text.Cells
import TypeCatalog.Text.Columns
import TypeCatalog.Text.Digits
import TypeCatalog.Text.Dotted
import TypeCatalog.Text.Emoji
import TypeCatalog.Text.Half
import TypeCatalog.Text.Letters
import TypeCatalog.Text.Lines
import TypeCatalog.Text.Lower
import TypeCatalog.Text.Pieces
import TypeCatalog.Text.Printable
import TypeCatalog.Text.Quoted
import TypeCatalog.Text.Similar
import TypeCatalog.Text.Style
import TypeCatalog.Text.Tagged
import TypeCatalog.Text.Wrapped
import TypeCatalog.TypeRef
import TypeCatalog.TypeRef.Boxed
import TypeCatalog.TypeRef.Builtin
import TypeCatalog.TypeRef.Canonical
import TypeCatalog.TypeRef.Printer
import TypeCatalog.TypeRef.Reader
import TypeCatalog.Value
import TypeCatalog.Value.Literal
import TypeCatalog.Value.Opened
import TypeCatalog.Value.Parts
import TypeCatalog.Proofs.Checked
import TypeCatalog.Proofs.Command.Annotations
import TypeCatalog.Proofs.Command.Classify
import TypeCatalog.Proofs.Command.Encoded
import TypeCatalog.Proofs.Command.Formats
import TypeCatalog.Proofs.Command.Scan
import TypeCatalog.Proofs.Decimal.Quantity
import TypeCatalog.Proofs.Document.Built
import TypeCatalog.Proofs.Element.Views
import TypeCatalog.Proofs.Endless
import TypeCatalog.Proofs.Format.Boxed
import TypeCatalog.Proofs.Format.Compatible
import TypeCatalog.Proofs.Format.Layers
import TypeCatalog.Proofs.Format.Spine
import TypeCatalog.Proofs.Format.Variables
import TypeCatalog.Proofs.Index
import TypeCatalog.Proofs.Live.Loading
import TypeCatalog.Proofs.Live.Search
import TypeCatalog.Proofs.Logging.Delivery
import TypeCatalog.Proofs.Logging.History
import TypeCatalog.Proofs.Ordered
import TypeCatalog.Proofs.Outcome
import TypeCatalog.Proofs.Settings.Abandoned
import TypeCatalog.Proofs.Settings.Destination
import TypeCatalog.Proofs.Settings.Ends
import TypeCatalog.Proofs.Settings.Escapes
import TypeCatalog.Proofs.Settings.Keys
import TypeCatalog.Proofs.Settings.Layers
import TypeCatalog.Proofs.Settings.Merged
import TypeCatalog.Proofs.Settings.Precedence
import TypeCatalog.Proofs.Settings.Rechecked
import TypeCatalog.Proofs.Settings.Together
import TypeCatalog.Proofs.Snapshot.Encoded
import TypeCatalog.Proofs.Snapshot.Escapes
import TypeCatalog.Proofs.Snapshot.Inner
import TypeCatalog.Proofs.Snapshot.Methods
import TypeCatalog.Proofs.Snapshot.Parts
import TypeCatalog.Proofs.Snapshot.PassedOver
import TypeCatalog.Proofs.Snapshot.Recorded
import TypeCatalog.Proofs.Snapshot.Runs
import TypeCatalog.Proofs.Snapshot.Texts
import TypeCatalog.Proofs.Snapshot.Written
import TypeCatalog.Proofs.Subtype.Chain
import TypeCatalog.Proofs.Subtype.Faults
import TypeCatalog.Proofs.Subtype.Imports
import TypeCatalog.Proofs.Subtype.Larger
import TypeCatalog.Proofs.Subtype.Reordered
import TypeCatalog.Proofs.Subtype.Tiers
import TypeCatalog.Proofs.Text.Brackets
import TypeCatalog.Proofs.Text.Joined
import TypeCatalog.Proofs.Text.Name
import TypeCatalog.Proofs.Text.Pieces
import TypeCatalog.Proofs.Text.Trim
import TypeCatalog.Proofs.TypeRef.Grammar
import TypeCatalog.Proofs.TypeRef.Inside
import TypeCatalog.Proofs.TypeRef.Nodes
import TypeCatalog.Proofs.TypeRef.Normal
import TypeCatalog.Proofs.TypeRef.Optional
import TypeCatalog.Proofs.TypeRef.Parts
import TypeCatalog.Proofs.TypeRef.Reread
import TypeCatalog.Proofs.TypeRef.Shape
import TypeCatalog.Proofs.TypeRef.Symmetric
import TypeCatalog.Proofs.Value.Fields
import TypeCatalog.Proofs.Value.Json
import TypeCatalog.Proofs.Value.Keys
import TypeCatalog.Proofs.Value.Parts
import TypeCatalog.Proofs.Value.Within
