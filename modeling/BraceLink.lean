import BraceLink.Calendar
import BraceLink.Chain
import BraceLink.Classic.Anchor
import BraceLink.Classic.Block
import BraceLink.Classic.Document
import BraceLink.Classic.Element
import BraceLink.Classic.Emphasis
import BraceLink.Classic.Fill
import BraceLink.Classic.Inline
import BraceLink.Classic.Mark
import BraceLink.Classic.RawHtml
import BraceLink.Classic.Target
import BraceLink.Command.Arguments
import BraceLink.Command.Page
import BraceLink.Command.Plan
import BraceLink.Command.Run
import BraceLink.Command.Verb
import BraceLink.Commonmark.Block.Basic
import BraceLink.Commonmark.Block.Line
import BraceLink.Commonmark.Block.Mark
import BraceLink.Commonmark.Block.Parser
import BraceLink.Commonmark.Document
import BraceLink.Commonmark.Inline.Basic
import BraceLink.Commonmark.Inline.Emphasis
import BraceLink.Commonmark.Inline.Magic
import BraceLink.Commonmark.Inline.Parser
import BraceLink.Commonmark.Inline.Rule
import BraceLink.Commonmark.LinkParts
import BraceLink.Commonmark.Render
import BraceLink.Disk
import BraceLink.Event
import BraceLink.Handler.Basic
import BraceLink.Handler.Custom
import BraceLink.Handler.GitHub
import BraceLink.Handler.Named
import BraceLink.Handler.Platform
import BraceLink.Html.ClassicName
import BraceLink.Html.Escape
import BraceLink.Html.Name
import BraceLink.Html.Reference
import BraceLink.Html.Tag
import BraceLink.ImageRule
import BraceLink.Link
import BraceLink.Main
import BraceLink.Number.Binary64
import BraceLink.Number.Numeral
import BraceLink.Number.Shortest
import BraceLink.Pattern.Basic
import BraceLink.Pattern.Error
import BraceLink.Pattern.Expr
import BraceLink.Pattern.Letter
import BraceLink.Pattern.Parser
import BraceLink.Pattern.Reader
import BraceLink.Pattern.Search
import BraceLink.Payload
import BraceLink.Proofs.Classic.Anchor
import BraceLink.Proofs.Classic.Element
import BraceLink.Proofs.Classic.Markup
import BraceLink.Proofs.Commonmark.Linked
import BraceLink.Proofs.Commonmark.Magic
import BraceLink.Proofs.Commonmark.Nesting
import BraceLink.Proofs.Commonmark.Paragraph
import BraceLink.Proofs.Html.Escape
import BraceLink.Proofs.Html.Markup
import BraceLink.Proofs.Resolver.Build
import BraceLink.Proofs.Resolver.Chain
import BraceLink.Proofs.Resolver.Classes
import BraceLink.Proofs.Resolver.Complete
import BraceLink.Proofs.Resolver.Dispatch
import BraceLink.Proofs.Resolver.Link
import BraceLink.Proofs.Resolver.Record
import BraceLink.Proofs.Resolver.Script
import BraceLink.Proofs.Resolver.Style
import BraceLink.Proofs.Settings.Plain
import BraceLink.Proofs.Text.Basic
import BraceLink.Proofs.Text.Split
import BraceLink.Proofs.Token.Grammar
import BraceLink.Proofs.Url.Escaped
import BraceLink.Proofs.Url.Host
import BraceLink.Proofs.Url.Normal
import BraceLink.Proofs.Url.Parts
import BraceLink.Proofs.Url.Percent
import BraceLink.Proofs.Url.Reading
import BraceLink.Proofs.Url.Scheme
import BraceLink.Registry
import BraceLink.Resolver
import BraceLink.Settings.Basic
import BraceLink.Settings.Combine
import BraceLink.Settings.Error
import BraceLink.Settings.File
import BraceLink.Settings.Read
import BraceLink.Settings.Value
import BraceLink.Table
import BraceLink.Terminal.Emoji
import BraceLink.Terminal.Escape
import BraceLink.Terminal.Grid
import BraceLink.Terminal.Markup
import BraceLink.Terminal.Style
import BraceLink.Terminal.Wrap
import BraceLink.Text.Basic
import BraceLink.Text.Blank
import BraceLink.Text.Cells
import BraceLink.Text.CharacterName
import BraceLink.Text.Identifier
import BraceLink.Text.Lowercase
import BraceLink.Text.Printable
import BraceLink.Text.Punctuation
import BraceLink.Text.Quoted
import BraceLink.Text.Range
import BraceLink.Text.Similar
import BraceLink.Text.Uppercase
import BraceLink.Text.Utf8
import BraceLink.Text.WordChar
import BraceLink.Token
import BraceLink.Url.Host
import BraceLink.Url.Normal
import BraceLink.Url.Parts
import BraceLink.Url.Percent
import BraceLink.Url.Punycode
import BraceLink.Version
import BraceLink.Yaml.Build
import BraceLink.Yaml.Content
import BraceLink.Yaml.Cursor
import BraceLink.Yaml.Document
import BraceLink.Yaml.Error
import BraceLink.Yaml.Kind
import BraceLink.Yaml.Layout
import BraceLink.Yaml.Moment
import BraceLink.Yaml.Node
import BraceLink.Yaml.Scalar
import BraceLink.Yaml.Token
import BraceLink.Proofs.Handler.GitHub
import BraceLink.Proofs.Pattern.Search
import BraceLink.Proofs.Resolver.Image
import BraceLink.Proofs.Registry.Entries
import BraceLink.Registry.Session
import BraceLink.Proofs.Registry.Session
import BraceLink.Proofs.Settings.Check
import BraceLink.Proofs.Settings.Entry
import BraceLink.Proofs.Settings.Read
import BraceLink.Proofs.Text.Utf8
import BraceLink.Proofs.Text.Words
import BraceLink.Proofs.Yaml.Layout
import BraceLink.Proofs.Yaml.Document
import BraceLink.Proofs.Yaml.Build
import BraceLink.Proofs.Settings.File
import BraceLink.Proofs.Token.Scan
import BraceLink.Proofs.Resolver.Order
import BraceLink.Proofs.Resolver.Extend
import BraceLink.Proofs.Resolver.Explicit
import BraceLink.Proofs.Handler.Avatar
import BraceLink.Proofs.Resolver.Mention
import BraceLink.Proofs.Disk
import BraceLink.Proofs.Terminal.Markup
import BraceLink.Proofs.Command.Render
import BraceLink.Proofs.Terminal.Literal
import BraceLink.Proofs.Text.Cells
import BraceLink.Proofs.Terminal.Wrap
import BraceLink.Proofs.Terminal.Grid
import BraceLink.Proofs.Command.Resolve
import BraceLink.Proofs.Resolver.Payload
import BraceLink.Proofs.Registry.Load
import BraceLink.Proofs.Settings.Spelling
import BraceLink.Proofs.Settings.Reread
import BraceLink.Proofs.Settings.Mapping
import BraceLink.Proofs.Settings.Combine
import BraceLink.Proofs.Resolver.Entries
import BraceLink.Proofs.Commonmark.Window
import BraceLink.Proofs.Token.Cyclic
