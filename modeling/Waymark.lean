import Waymark.CharSet
import Waymark.CommandLine
import Waymark.Config.Diagnosis
import Waymark.Config.File
import Waymark.Config.Load
import Waymark.Config.Quoting
import Waymark.Config.Rules
import Waymark.Config.Server
import Waymark.Config.Token
import Waymark.Config.Token.Lexer
import Waymark.Config.Tree
import Waymark.Config.Tree.Reader
import Waymark.Dispatcher
import Waymark.DocumentStore
import Waymark.FileTree
import Waymark.Handler
import Waymark.Http.Connection
import Waymark.Http.Date
import Waymark.Http.MediaType
import Waymark.Http.Range
import Waymark.Http.Request
import Waymark.Http.Response
import Waymark.Http.Uri
import Waymark.Location
import Waymark.Main
import Waymark.Markup.Block
import Waymark.Markup.BlockReader
import Waymark.Markup.Character
import Waymark.Markup.Emphasis
import Waymark.Markup.Entity
import Waymark.Markup.Escape
import Waymark.Markup.Html
import Waymark.Markup.Inline
import Waymark.Markup.InlineReader
import Waymark.Markup.Line
import Waymark.Markup.Link
import Waymark.Markup.RawHtml
import Waymark.Path
import Waymark.Pattern.Ast
import Waymark.Pattern.ClassReader
import Waymark.Pattern.Compile
import Waymark.Pattern.Escape
import Waymark.Pattern.Fault
import Waymark.Pattern.Interpret
import Waymark.Pattern.Property
import Waymark.Pattern.Reader
import Waymark.Pattern.Size
import Waymark.Pattern.Term
import Waymark.Proofs.Command.Startup
import Waymark.Proofs.Diagnosis
import Waymark.Proofs.Documents.Frame
import Waymark.Proofs.Documents.Missing
import Waymark.Proofs.Documents.Names
import Waymark.Proofs.Documents.Run
import Waymark.Proofs.Documents.Step
import Waymark.Proofs.Files.Directories
import Waymark.Proofs.Files.Path
import Waymark.Proofs.Files.Resolution
import Waymark.Proofs.Files.Tree
import Waymark.Proofs.Http.Range
import Waymark.Proofs.Http.RangeHeader
import Waymark.Proofs.Outcome
import Waymark.Proofs.Routing.Dispatch
import Waymark.Proofs.Routing.Match
import Waymark.Proofs.Routing.Reordering
import Waymark.Proofs.Routing.Selection
import Waymark.Proofs.Rules.Conformance
import Waymark.Proofs.Rules.LevelOrder
import Waymark.Proofs.Rules.Places
import Waymark.Proofs.Server.Concatenation
import Waymark.Proofs.Server.Contract
import Waymark.Proofs.Server.Layout
import Waymark.Proofs.Server.Loaded
import Waymark.Proofs.Server.LocationTable
import Waymark.Proofs.Server.Nesting
import Waymark.Proofs.Server.Port
import Waymark.Proofs.Server.QuotedArgument
import Waymark.Proofs.Server.Refusal
import Waymark.Proofs.Server.Registration
import Waymark.Proofs.Server.Shape
import Waymark.Proofs.Server.Tabulation
import Waymark.Proofs.Site.PatternLocation
import Waymark.Proofs.Site.Serve
import Waymark.Proofs.Table
import Waymark.Proofs.Text.ByteOrder
import Waymark.Proofs.Token.Calls
import Waymark.Proofs.Token.Extension
import Waymark.Proofs.Token.Fault
import Waymark.Proofs.Token.Grammar
import Waymark.Proofs.Token.Joining
import Waymark.Proofs.Token.Progress
import Waymark.Proofs.Token.Quoting
import Waymark.Proofs.Token.Slice
import Waymark.Proofs.Tree.Braces
import Waymark.Proofs.Tree.Derivation
import Waymark.Proofs.Tree.Extent
import Waymark.Proofs.Tree.Flatten
import Waymark.Proofs.Tree.Order
import Waymark.Proofs.Tree.Places
import Waymark.Proofs.Tree.Rebase
import Waymark.Proofs.Tree.Relocation
import Waymark.Proofs.Tree.RoundTrip
import Waymark.Proofs.Tree.Structure
import Waymark.Proofs.Tree.Viable
import Waymark.Registry
import Waymark.Report
import Waymark.RouteTable
import Waymark.Router
import Waymark.Span
import Waymark.StaticSite
import Waymark.Table
import Waymark.Text.Line
import Waymark.Text.Quoted
import Waymark.Text.Space
import Waymark.Text.Utf8
import Waymark.Unicode.CaseFolding
import Waymark.Unicode.Category
import Waymark.Unicode.Property
import Waymark.Unicode.Script
import Waymark.Unicode.Width
import Waymark.Proofs.Http.Sending
