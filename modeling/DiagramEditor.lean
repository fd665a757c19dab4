import DiagramEditor.Text.Basic
import DiagramEditor.Text.Whitespace
import DiagramEditor.Text.Lines
import DiagramEditor.Syntax.Category
import DiagramEditor.Syntax.Rule
import DiagramEditor.Syntax.Keyword
import DiagramEditor.Syntax.Token
import DiagramEditor.Text.Alphanumeric
import DiagramEditor.Text.Printable
import DiagramEditor.Text.GraphemeExtend
import DiagramEditor.Text.Utf8
import DiagramEditor.Text.Quoted
import DiagramEditor.Highlight.Color
import DiagramEditor.Highlight.Theme
import DiagramEditor.Highlight.Span
import DiagramEditor.Highlight.Terminal
import DiagramEditor.Format.Options
import DiagramEditor.Format.Indent
import DiagramEditor.Document
import DiagramEditor.Host.OsError
import DiagramEditor.Host.ExitStatus
import DiagramEditor.Render.Error
import DiagramEditor.Render.Queue
import DiagramEditor.Render.Debouncer
import DiagramEditor.Render.Worker
import DiagramEditor.Session
import DiagramEditor.Host.FileSystem
import DiagramEditor.SourceFile
import DiagramEditor.Toml.Value
import DiagramEditor.Toml.Quoted
import DiagramEditor.Config.Store
import DiagramEditor.Render.Command
import DiagramEditor.CommandLine.Run
import DiagramEditor.Main
import DiagramEditor.Programs.Tools
import DiagramEditor.Programs.Toolbox
import DiagramEditor.Highlight.Screen
import DiagramEditor.Format.Balance
import DiagramEditor.Document.Change
import DiagramEditor.Render.History
import DiagramEditor.Session.Event
import DiagramEditor.SourceFile.Stages
import DiagramEditor.Proofs.Syntax.Match
import DiagramEditor.Proofs.Text.Boundary
import DiagramEditor.Proofs.Syntax.Coverage
import DiagramEditor.Proofs.Document.Edit
import DiagramEditor.Proofs.Render.Queue
import DiagramEditor.Proofs.Render.Worker
import DiagramEditor.Proofs.Session.Preview
import DiagramEditor.Proofs.Text.Lines
import DiagramEditor.Proofs.Format.Content
import DiagramEditor.Proofs.Syntax.Blank
import DiagramEditor.Proofs.Format.Tokens
import DiagramEditor.Proofs.Syntax.Precedence
import DiagramEditor.Proofs.Document.Splice
import DiagramEditor.Proofs.Syntax.Locality
import DiagramEditor.Proofs.Highlight.Edit
import DiagramEditor.Proofs.Document.Run
import DiagramEditor.Proofs.Render.Delivery
import DiagramEditor.Proofs.Session.Delivery
import DiagramEditor.Proofs.Format.Depth
import DiagramEditor.Proofs.Render.History
import DiagramEditor.Proofs.Session.Provenance
import DiagramEditor.Proofs.CommandLine.Format
import DiagramEditor.Proofs.Format.EntryPoints
import DiagramEditor.Proofs.Format.Canonical
import DiagramEditor.Proofs.Host.Path
import DiagramEditor.Proofs.Host.Sibling
import DiagramEditor.Proofs.SourceFile.Temporary
import DiagramEditor.Proofs.SourceFile.Stages
import DiagramEditor.Proofs.SourceFile.Frame
import DiagramEditor.Proofs.Syntax.Keyword
import DiagramEditor.Proofs.Format.Blocks
import DiagramEditor.Proofs.Highlight.Terminal
import DiagramEditor.Proofs.Syntax.KeywordPlace
import DiagramEditor.Proofs.Config.Store
import DiagramEditor.Proofs.Syntax.Stepwise
import DiagramEditor.Proofs.Document.Bytes
import DiagramEditor.Proofs.Text.Byte
import DiagramEditor.Proofs.Syntax.FirstToken
import DiagramEditor.Proofs.Syntax.Border
import DiagramEditor.Proofs.Syntax.Quotes
import DiagramEditor.Session.Burst
import DiagramEditor.Proofs.Highlight.Gaps
import DiagramEditor.Proofs.Session.Burst
import DiagramEditor.Proofs.Session.Reordering
import DiagramEditor.Proofs.Format.Regions
import DiagramEditor.Proofs.Document.Undo
import DiagramEditor.Proofs.CommandLine.Arguments
import DiagramEditor.Proofs.Highlight.Color
import DiagramEditor.CommandLine.Stages
import DiagramEditor.Proofs.CommandLine.Stages
import DiagramEditor.Proofs.CommandLine.AllOrNothing
import DiagramEditor.Proofs.Config.Theme
import DiagramEditor.Syntax.Bytewise
import DiagramEditor.Proofs.Text.Bytewise
import DiagramEditor.Proofs.Syntax.Bytewise
import DiagramEditor.Proofs.CommandLine.FirstRender
