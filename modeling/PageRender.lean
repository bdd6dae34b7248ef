import PageRender.CommandLine.Reader
import PageRender.CommandLine.Usage
import PageRender.Config.Failure
import PageRender.Config.Format.Ini
import PageRender.Config.Format.Json
import PageRender.Config.Format.Scan
import PageRender.Config.Format.Toml
import PageRender.Config.Format.Toml.Scalar
import PageRender.Config.Format.Toml.Table
import PageRender.Config.Format.Yaml
import PageRender.Config.Format.Yaml.BlockText
import PageRender.Config.Format.Yaml.Bracketed
import PageRender.Config.Format.Yaml.Place
import PageRender.Config.Format.Yaml.Scalar
import PageRender.Config.Raw
import PageRender.Config.Settings
import PageRender.Config.Source
import PageRender.Config.Value
import PageRender.Context
import PageRender.Data.Decode
import PageRender.Data.Floating
import PageRender.Data.KeyMap
import PageRender.Data.Value
import PageRender.Failure
import PageRender.Files
import PageRender.Generation
import PageRender.Highlight
import PageRender.Highlight.Cursor
import PageRender.Highlight.Keyword
import PageRender.Hook
import PageRender.Html.Entity
import PageRender.Html.Entity.Table
import PageRender.Html.Fragment
import PageRender.Html.Lexeme
import PageRender.Html.Name
import PageRender.Html.Print
import PageRender.Html.Stream
import PageRender.Html.Token
import PageRender.Html.Tree.Builder
import PageRender.Html.Tree.Content
import PageRender.Html.Tree.Reading
import PageRender.Html.Tree.Store
import PageRender.Html.Tree.Table
import PageRender.Interceptor
import PageRender.Interceptor.Registry
import PageRender.Interceptor.Script
import PageRender.Main
import PageRender.Markdown.Anchor
import PageRender.Markdown.Block
import PageRender.Markdown.Block.Line
import PageRender.Markdown.Block.Reader
import PageRender.Markdown.Block.Table
import PageRender.Markdown.Document
import PageRender.Markdown.Forest
import PageRender.Markdown.Inline.Autolink
import PageRender.Markdown.Inline.Piece
import PageRender.Markdown.Inline.Reader
import PageRender.Markdown.Note
import PageRender.Markdown.PageLink
import PageRender.Markdown.Part
import PageRender.Markdown.Print
import PageRender.Markdown.Reference
import PageRender.Markdown.Running
import PageRender.Markdown.Scan
import PageRender.Mount
import PageRender.Page
import PageRender.Pipeline
import PageRender.Program
import PageRender.Proofs.AcceptedWhitelist
import PageRender.Proofs.BuilderAttributes
import PageRender.Proofs.CleanFragment
import PageRender.Proofs.CleanUrl
import PageRender.Proofs.CustomPolicy
import PageRender.Proofs.DocumentShape
import PageRender.Proofs.EscapedFailures
import PageRender.Proofs.EscapedMarkup
import PageRender.Proofs.EscapedText
import PageRender.Proofs.ExpandedRuns
import PageRender.Proofs.ExportedPolicy
import PageRender.Proofs.FragmentLinks
import PageRender.Proofs.HighlightCursor
import PageRender.Proofs.HighlightLines
import PageRender.Proofs.HighlightMarkers
import PageRender.Proofs.HighlightOrder
import PageRender.Proofs.HighlightScan
import PageRender.Proofs.HighlightStage
import PageRender.Proofs.HighlightTrace
import PageRender.Proofs.HighlightValues
import PageRender.Proofs.HookRuns
import PageRender.Proofs.KeptMarkers
import PageRender.Proofs.KeptText
import PageRender.Proofs.KeywordMatch
import PageRender.Proofs.KeywordSize
import PageRender.Proofs.LexemeSource
import PageRender.Proofs.LineEnds
import PageRender.Proofs.MountedFragment
import PageRender.Proofs.NameSet
import PageRender.Proofs.NestedReading
import PageRender.Proofs.NestedSteps
import PageRender.Proofs.NestedTags
import PageRender.Proofs.Nesting
import PageRender.Proofs.NeutralInterceptors
import PageRender.Proofs.OverriddenSettings
import PageRender.Proofs.PageLinkOutput
import PageRender.Proofs.PageLinkText
import PageRender.Proofs.PageReference
import PageRender.Proofs.PlantedTree
import PageRender.Proofs.PolicyInvariant
import PageRender.Proofs.PolicyNames
import PageRender.Proofs.PresetMounting
import PageRender.Proofs.PrintedLexeme
import PageRender.Proofs.PrintedTags
import PageRender.Proofs.QualifiedIds
import PageRender.Proofs.QuietFragment
import PageRender.Proofs.ReadAttributes
import PageRender.Proofs.RegistrationOrder
import PageRender.Proofs.RejectedSettings
import PageRender.Proofs.RemovedTags
import PageRender.Proofs.RenderStages
import PageRender.Proofs.SanitizeTwice
import PageRender.Proofs.ScopedMarkup
import PageRender.Proofs.Spelling
import PageRender.Proofs.StreamedFragment
import PageRender.Proofs.TicketRuns
import PageRender.Proofs.TrimmedText
import PageRender.Proofs.WholeMarkers
import PageRender.Proofs.WordTickets
import PageRender.Renderer
import PageRender.Sanitize.Clean
import PageRender.Sanitize.Policy
import PageRender.Sanitize.Url
import PageRender.Sanitize.Vocabulary
import PageRender.Sanitize.Whitelist
import PageRender.Text.Blank
import PageRender.Text.Case
import PageRender.Text.CaseTable
import PageRender.Text.Category
import PageRender.Text.CharSet
import PageRender.Text.Escape
import PageRender.Text.LineEnding
import PageRender.Text.Numeral
import PageRender.Text.Offset
import PageRender.Text.Quoted
import PageRender.Text.Replace
import PageRender.Text.Split
import PageRender.Text.Utf8
import PageRender.Trace
