import Texdown.Archive.Checksum
import Texdown.Archive.Package
import Texdown.Archive.Unzip
import Texdown.Archive.Zip
import Texdown.CommandLine.Arguments
import Texdown.CommandLine.Host
import Texdown.CommandLine.Log
import Texdown.CommandLine.Session
import Texdown.CommandLine.Switch
import Texdown.Config
import Texdown.Conversion
import Texdown.Engine
import Texdown.Error
import Texdown.Event
import Texdown.Figure.Format
import Texdown.Figure.Name
import Texdown.Figure.Registry
import Texdown.Files
import Texdown.FreeName
import Texdown.Latex.Escape
import Texdown.Latex.Formatter
import Texdown.Latex.Preamble
import Texdown.Latex.Renderer
import Texdown.Latex.Settings
import Texdown.Latex.Spacing
import Texdown.Locator
import Texdown.Main
import Texdown.Markdown.Extensions
import Texdown.Math.Disguise
import Texdown.Math.Table
import Texdown.NewFile
import Texdown.Notice
import Texdown.Number.Double
import Texdown.Options.Basic
import Texdown.Options.Packaging
import Texdown.Options.Reading
import Texdown.Options.Rendering
import Texdown.Output
import Texdown.OutputName
import Texdown.Path
import Texdown.Program.Client
import Texdown.Program.Markdown.Block
import Texdown.Program.Markdown.Destination
import Texdown.Program.Markdown.Emphasis
import Texdown.Program.Markdown.Html
import Texdown.Program.Markdown.Inline
import Texdown.Program.Markdown.Lines
import Texdown.Program.Markdown.Reader
import Texdown.Program.Markdown.Structure
import Texdown.Program.Markdown.Tables
import Texdown.Program.Package.Requirement
import Texdown.Program.Package.Version
import Texdown.Program.Reason
import Texdown.Program.Yaml.Cursor
import Texdown.Program.Yaml.Document
import Texdown.Program.Yaml.Plain
import Texdown.Program.Yaml.Scalar
import Texdown.Saving
import Texdown.Span
import Texdown.Stream
import Texdown.Text.Alphanumeric
import Texdown.Text.Ascii
import Texdown.Text.AsciiTable
import Texdown.Text.Basic
import Texdown.Text.Blank
import Texdown.Text.Case
import Texdown.Text.CaseTable
import Texdown.Text.CharacterReference
import Texdown.Text.Decimal
import Texdown.Text.Lines
import Texdown.Text.NamedReference
import Texdown.Text.Percent
import Texdown.Text.Printable
import Texdown.Text.Punctuation
import Texdown.Text.Quoted
import Texdown.Text.Ranges
import Texdown.Text.Utf8
import Texdown.Token
import Texdown.Value.Basic
import Texdown.Value.Json
import Texdown.Value.Moment
import Texdown.Value.Toml.Document
import Texdown.Value.Toml.Scalar
import Texdown.Verbosity
import Texdown.Web.Check
import Texdown.Web.Download
import Texdown.Web.Fetch
import Texdown.Web.Ip
import Texdown.Web.Url
import Texdown.Proofs.Acts
import Texdown.Proofs.Arrangement
import Texdown.Proofs.Balance
import Texdown.Proofs.Blocks
import Texdown.Proofs.Brackets
import Texdown.Proofs.CodeSpans
import Texdown.Proofs.Disguise
import Texdown.Proofs.Effects
import Texdown.Proofs.Faithful
import Texdown.Proofs.Figures
import Texdown.Proofs.Framing
import Texdown.Proofs.Groups
import Texdown.Proofs.Locating
import Texdown.Proofs.Nesting
import Texdown.Proofs.Restoring
import Texdown.Proofs.Running
import Texdown.Proofs.Streams
import Texdown.Proofs.Queries
import Texdown.Proofs.OutsideMath
import Texdown.Proofs.LeftOut
import Texdown.Proofs.Payloads
import Texdown.Proofs.Spans
import Texdown.Proofs.Archives
import Texdown.Proofs.Reports
import Texdown.Proofs.Packages
import Texdown.Proofs.Malformed
import Texdown.Proofs.Fetching
import Texdown.Proofs.FreeNames
import Texdown.Proofs.FigureNames
import Texdown.Proofs.Downloads
import Texdown.Proofs.Deliveries
import Texdown.Proofs.Openers
import Texdown.Proofs.CodeBlocks
import Texdown.Proofs.DollarPairs
import Texdown.Proofs.Comments
import Texdown.Proofs.Lists
import Texdown.Proofs.Inert
import Texdown.Proofs.Voices
import Texdown.Proofs.NextText
import Texdown.Proofs.ControlWords
import Texdown.Proofs.OptionalArguments
import Texdown.Proofs.References
import Texdown.Proofs.NormalTexts
import Texdown.Proofs.Fragments
import Texdown.Proofs.FusedBreaks
import Texdown.Proofs.Searching
import Texdown.Proofs.InlineLinks
import Texdown.Proofs.Placements
import Texdown.Proofs.MatchedBrackets
import Texdown.Proofs.CodeSearch
import Texdown.Proofs.LinkTails
import Texdown.Proofs.Spellings
import Texdown.Proofs.BadOptions
import Texdown.Proofs.Places
import Texdown.Proofs.Stems
import Texdown.Proofs.Sessions
import Texdown.Proofs.NewFiles
import Texdown.Proofs.Reruns
import Texdown.Proofs.Walks
import Texdown.Proofs.WorkingDirectories
import Texdown.Proofs.Passes
import Texdown.Proofs.BrokenConfigurations
