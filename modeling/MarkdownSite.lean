import MarkdownSite.Config.Load
import MarkdownSite.Log.Journal
import MarkdownSite.Render.SiteRenderer
import MarkdownSite.Proofs.Heading.Ids
import MarkdownSite.Proofs.Text.Basic
import MarkdownSite.Proofs.Text.Separator
import MarkdownSite.Proofs.Heading.Alias
import MarkdownSite.Proofs.Heading.Written
import MarkdownSite.Proofs.Heading.Placement
import MarkdownSite.Proofs.Log.Record
import MarkdownSite.Proofs.Node.Alike
import MarkdownSite.Proofs.Node.Image
import MarkdownSite.Proofs.Node.Running
import MarkdownSite.Proofs.Options.Settings
import MarkdownSite.Proofs.Markdown.HtmlBlock
import MarkdownSite.Proofs.Options.Sanitizer
import MarkdownSite.Proofs.Render.Outcome
import MarkdownSite.Proofs.Render.Parts
import MarkdownSite.Proofs.Render.Sanitized
import MarkdownSite.Proofs.Render.Resolver
import MarkdownSite.Proofs.Hooks.History
import MarkdownSite.Proofs.Url.Emitted
import MarkdownSite.Proofs.Hooks.Modes
import MarkdownSite.Proofs.Options.Coercion
import MarkdownSite.Proofs.Options.Layers
import MarkdownSite.Proofs.Options.Composition
import MarkdownSite.Proofs.Url.Escapes
import MarkdownSite.Proofs.Url.Tail
import MarkdownSite.Proofs.Url.Resource
import MarkdownSite.Proofs.Url.Stable
import MarkdownSite.Proofs.Options.Validity
import MarkdownSite.Proofs.Site.Assets
import MarkdownSite.Proofs.Node.Covered
import MarkdownSite.Proofs.Node.Term
import MarkdownSite.Proofs.Node.Paragraph
import MarkdownSite.Proofs.Config.Load
import MarkdownSite.Proofs.Url.Spelling
import MarkdownSite.Proofs.Url.Query
import MarkdownSite.Proofs.Text.Opening
import MarkdownSite.Proofs.Text.Accents
import MarkdownSite.Proofs.Node.Punctuation
import MarkdownSite.Proofs.Site.Root
import MarkdownSite.Proofs.Unicode.Blank
import MarkdownSite.Proofs.Text.Trimmed
import MarkdownSite.Proofs.Heading.AliasElement
import MarkdownSite.Proofs.Url.Fragment
import MarkdownSite.Proofs.Heading.AliasTarget
import MarkdownSite.Proofs.Heading.Title
import MarkdownSite.Proofs.Url.Hidden
import MarkdownSite.Proofs.Url.Mail
import MarkdownSite.Proofs.Node.MailLink
import MarkdownSite.Proofs.Heading.Counters
import MarkdownSite.Proofs.Heading.Claim
import MarkdownSite.Proofs.Url.CodePoint
import MarkdownSite.Proofs.Text.Words
import MarkdownSite.Sanitizer.Memory
import MarkdownSite.Proofs.Sanitizer.Additions
import MarkdownSite.Proofs.Sanitizer.Memory
import MarkdownSite.Proofs.Sanitizer.Building
