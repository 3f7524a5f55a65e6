import PageBuilder.Blocks.Collection
import PageBuilder.Blocks.Content
import PageBuilder.Blocks.Countdown
import PageBuilder.Blocks.Graph
import PageBuilder.Blocks.Kind
import PageBuilder.Blocks.Lead
import PageBuilder.Blocks.Navigation
import PageBuilder.Blocks.Parts
import PageBuilder.Blocks.Story
import PageBuilder.Catalog.Kind
import PageBuilder.Catalog.Lists
import PageBuilder.Catalog.Template
import PageBuilder.Catalog.Writer
import PageBuilder.Chart.Bar
import PageBuilder.Chart.Geometry
import PageBuilder.Chart.Line
import PageBuilder.Chart.Outline
import PageBuilder.Chart.Palette
import PageBuilder.Chart.Pie
import PageBuilder.Chart.Scalar
import PageBuilder.Chart.Series
import PageBuilder.Client
import PageBuilder.CommandLine
import PageBuilder.CommandLine.Help
import PageBuilder.Component
import PageBuilder.Decimal.Basic
import PageBuilder.Decimal.Reading
import PageBuilder.Decimal.Shortest
import PageBuilder.Document.Basic
import PageBuilder.Document.Data
import PageBuilder.Editor
import PageBuilder.Error
import PageBuilder.Fields
import PageBuilder.Form.Basic
import PageBuilder.Form.CommaList
import PageBuilder.Form.Edit
import PageBuilder.Form.Layout
import PageBuilder.Form.Of
import PageBuilder.Form.Writer
import PageBuilder.Json.Basic
import PageBuilder.Json.Draft
import PageBuilder.Json.Numeral
import PageBuilder.Json.Shape
import PageBuilder.Json.Token
import PageBuilder.Json.Writer
import PageBuilder.Main
import PageBuilder.Markup.Escape
import PageBuilder.Markup.Node
import PageBuilder.Markup.Style
import PageBuilder.Markup.Url
import PageBuilder.Page
import PageBuilder.Path.Access
import PageBuilder.Path.Basic
import PageBuilder.Project.Basic
import PageBuilder.Saving.Queue
import PageBuilder.Saving.Timeline
import PageBuilder.Settings
import PageBuilder.Site.Basic
import PageBuilder.Site.FormData
import PageBuilder.Site.ImageFile
import PageBuilder.Site.IndexPage
import PageBuilder.Site.MediaType
import PageBuilder.Site.Plan
import PageBuilder.Site.Refusal
import PageBuilder.Site.Route
import PageBuilder.Site.Server
import PageBuilder.Site.Store
import PageBuilder.Site.StoredProject
import PageBuilder.Site.Timestamp
import PageBuilder.Text.Blank
import PageBuilder.Text.Percent
import PageBuilder.Proofs.Document.Numbering
import PageBuilder.Proofs.Document.Operations
import PageBuilder.Proofs.Document.Identity
import PageBuilder.Proofs.Saving.Newest
import PageBuilder.Proofs.Saving.Clock
import PageBuilder.Proofs.Editor.Intents
import PageBuilder.Proofs.Editor.Saves
import PageBuilder.Proofs.Json.Reading
import PageBuilder.Proofs.Json.Tokens
import PageBuilder.Proofs.Json.RoundTrip
import PageBuilder.Proofs.Project.Content
import PageBuilder.Proofs.Catalog.Values
import PageBuilder.Proofs.Document.Values
import PageBuilder.Proofs.Editor.Reload
import PageBuilder.Proofs.Path.Lens
import PageBuilder.Proofs.Path.InPlace
import PageBuilder.Proofs.Path.Text
import PageBuilder.Proofs.Form.Places
import PageBuilder.Proofs.Form.Shape
import PageBuilder.Proofs.Form.Display
import PageBuilder.Proofs.Form.Editing
import PageBuilder.Proofs.Text.Trim
import PageBuilder.Proofs.Markup.Url
import PageBuilder.Proofs.Blocks.Urls
import PageBuilder.Proofs.Markup.Reader
import PageBuilder.Proofs.Markup.RoundTrip
import PageBuilder.Proofs.Markup.TextContent
import PageBuilder.Proofs.Markup.EndTags
import PageBuilder.Proofs.Markup.ScriptLiteral
import PageBuilder.Proofs.Site.Limits
import PageBuilder.Proofs.Site.Projects
import PageBuilder.Proofs.Document.Lifetime
import PageBuilder.Proofs.Document.Independence
import PageBuilder.Proofs.Json.Indented
import PageBuilder.Proofs.Json.Records
import PageBuilder.Proofs.Project.Opening
import PageBuilder.Proofs.Site.Agreement
import PageBuilder.Proofs.Site.Contents
import PageBuilder.Proofs.Document.Loading
import PageBuilder.Proofs.Site.Editing
import PageBuilder.Proofs.Site.Export
import PageBuilder.Proofs.Page.Canvas
import PageBuilder.Proofs.Path.Grammar
import PageBuilder.Proofs.Document.Lists
import PageBuilder.Proofs.Form.Sections
import PageBuilder.Proofs.Text.Pieces
import PageBuilder.Proofs.Form.CommaList
import PageBuilder.Proofs.Saving.Progress
import PageBuilder.Proofs.Saving.Timer
import PageBuilder.Proofs.Saving.Flush
import PageBuilder.Proofs.Editor.Failure
import PageBuilder.Proofs.Editor.Flush
import PageBuilder.Proofs.Editor.Debounce
import PageBuilder.Proofs.Document.Moving
import PageBuilder.Proofs.Document.Columns
import PageBuilder.Proofs.Blocks.Countdown
import PageBuilder.Proofs.Markup.Style
import PageBuilder.Proofs.Page.Settings
import PageBuilder.Proofs.Chart.Outline
import PageBuilder.Proofs.Chart.Layout
import PageBuilder.Proofs.Chart.Exact
import PageBuilder.Proofs.Chart.Shares
import PageBuilder.Proofs.Chart.Upright
