import ApiPages.Anchor
import ApiPages.Builder
import ApiPages.Command.Arguments
import ApiPages.Command.Run
import ApiPages.Document.Html
import ApiPages.Document.Node
import ApiPages.Fault
import ApiPages.Files.Access
import ApiPages.Files.Disk
import ApiPages.Files.Path
import ApiPages.Files.Store
import ApiPages.Format
import ApiPages.Highlight.Data
import ApiPages.Highlight.Language
import ApiPages.Highlight.Lexer
import ApiPages.Highlight.Python
import ApiPages.Highlight.Script
import ApiPages.Highlight.Token
import ApiPages.Json.Basic
import ApiPages.Json.Reader
import ApiPages.Json.Writer
import ApiPages.Log
import ApiPages.Main
import ApiPages.Markdown.Block
import ApiPages.Markdown.Document
import ApiPages.Markdown.Emphasis
import ApiPages.Markdown.Fence
import ApiPages.Markdown.Inline
import ApiPages.Markdown.Link
import ApiPages.Markdown.Mark
import ApiPages.Markdown.RawHtml
import ApiPages.Markdown.Source
import ApiPages.Markdown.Table
import ApiPages.Markup.Entity
import ApiPages.Markup.Tree
import ApiPages.Markup.Xml
import ApiPages.Model.Basic
import ApiPages.Model.Notation
import ApiPages.Model.Reader
import ApiPages.Model.Walk
import ApiPages.Page.Base
import ApiPages.Page.Basic
import ApiPages.Page.Context
import ApiPages.Page.FieldTemplate
import ApiPages.Page.Layout
import ApiPages.Page.Order
import ApiPages.Page.Section
import ApiPages.Page.Table
import ApiPages.Page.TypeNodes
import ApiPages.Pattern.Basic
import ApiPages.Pattern.Reader
import ApiPages.Proofs.Anchor.Fresh
import ApiPages.Proofs.Anchor.Identifier
import ApiPages.Proofs.Anchor.Normal
import ApiPages.Proofs.Anchor.Search
import ApiPages.Proofs.Association
import ApiPages.Proofs.Builder.Frame
import ApiPages.Proofs.Builder.Result
import ApiPages.Proofs.Builder.Runs
import ApiPages.Proofs.Command.Arguments
import ApiPages.Proofs.Command.Effect
import ApiPages.Proofs.Command.Faults
import ApiPages.Proofs.Command.Log
import ApiPages.Proofs.Command.Preparation
import ApiPages.Proofs.Document.Elements
import ApiPages.Proofs.Document.Html
import ApiPages.Proofs.Document.Recovery
import ApiPages.Proofs.Document.Slugs
import ApiPages.Proofs.Document.Texts
import ApiPages.Proofs.Files.Log
import ApiPages.Proofs.Files.Path
import ApiPages.Proofs.Files.Store
import ApiPages.Proofs.Highlight.Spans
import ApiPages.Proofs.Logger.Hierarchy
import ApiPages.Proofs.Logger.Records
import ApiPages.Proofs.Markdown.Mark
import ApiPages.Proofs.Model.Faults
import ApiPages.Proofs.Model.Grammar
import ApiPages.Proofs.Model.Induction
import ApiPages.Proofs.Model.Inside
import ApiPages.Proofs.Model.Place
import ApiPages.Proofs.Model.Reading
import ApiPages.Proofs.Model.Variation
import ApiPages.Proofs.Model.Walk
import ApiPages.Proofs.Outcome
import ApiPages.Proofs.Page.Agreement
import ApiPages.Proofs.Page.Anchors
import ApiPages.Proofs.Page.Arrangement
import ApiPages.Proofs.Page.Base
import ApiPages.Proofs.Page.BaseChain
import ApiPages.Proofs.Page.ClassLinks
import ApiPages.Proofs.Page.Documentation
import ApiPages.Proofs.Page.Endless
import ApiPages.Proofs.Page.Expansion
import ApiPages.Proofs.Page.Faults
import ApiPages.Proofs.Page.Fields
import ApiPages.Proofs.Page.Fragments
import ApiPages.Proofs.Page.Identity
import ApiPages.Proofs.Page.MemberLinks
import ApiPages.Proofs.Page.MemberTable
import ApiPages.Proofs.Page.Members
import ApiPages.Proofs.Page.Menu
import ApiPages.Proofs.Page.Order
import ApiPages.Proofs.Page.Parts
import ApiPages.Proofs.Page.Refusal
import ApiPages.Proofs.Page.Reordering
import ApiPages.Proofs.Page.SectionCount
import ApiPages.Proofs.Page.Shell
import ApiPages.Proofs.Page.Steps
import ApiPages.Proofs.Page.SymbolIndex
import ApiPages.Proofs.Page.TypeNodes
import ApiPages.Proofs.Page.Vocabulary
import ApiPages.Proofs.Page.Wording
import ApiPages.Proofs.Program.Frame
import ApiPages.Proofs.Program.Look
import ApiPages.Proofs.Program.Result
import ApiPages.Proofs.Prose.Escape
import ApiPages.Proofs.Prose.Linking
import ApiPages.Proofs.Prose.Mention
import ApiPages.Proofs.Prose.Shown
import ApiPages.Proofs.Prose.Stash
import ApiPages.Proofs.Prose.Text
import ApiPages.Proofs.Settings.Acceptance
import ApiPages.Proofs.Settings.Overrides
import ApiPages.Proofs.Settings.Reading
import ApiPages.Proofs.Settings.Refusal
import ApiPages.Proofs.Text.Case
import ApiPages.Proofs.Text.Cut
import ApiPages.Proofs.Text.Lower
import ApiPages.Proofs.Text.Piece
import ApiPages.Proofs.Text.Replace
import ApiPages.Proofs.Text.Scan
import ApiPages.Proofs.Yaml.Merge
import ApiPages.Proofs.Yaml.Override
import ApiPages.Proofs.Yaml.Path
import ApiPages.Prose.Mention
import ApiPages.Prose.Renderer
import ApiPages.Settings.Basic
import ApiPages.Settings.Defaults
import ApiPages.Settings.Loader
import ApiPages.Text.Decimal
import ApiPages.Text.Fold
import ApiPages.Text.Letter
import ApiPages.Text.Lower
import ApiPages.Text.Piece
import ApiPages.Text.Printable
import ApiPages.Text.Quoted
import ApiPages.Text.Range
import ApiPages.Text.Scan
import ApiPages.Yaml.Basic
import ApiPages.Yaml.Content
import ApiPages.Yaml.Reader
import ApiPages.Yaml.Scalar
import ApiPages.Yaml.Token
