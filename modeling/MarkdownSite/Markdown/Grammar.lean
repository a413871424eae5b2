import MarkdownSite.Text.Basic

/-!
# The grammar of documents

A document is read by rules. At each line the first block rule that applies is tried, and at each
character of running text the first inline rule. Rules can be taken away, and extensions add more.
-/

namespace MarkdownSite.Markdown

/-- The rules by which lines become blocks. -/
inductive BlockRule where
  | fencedCode
  | indentedCode
  | atxHeading
  | setextHeading
  | thematicBreak
  | blockQuote
  | list
  | referenceDefinition
  | rawHtml
  | blankLine
  | table
  /-- A table whose rows have no bars at their ends. -/
  | openTable
  | footnoteDefinition
  deriving DecidableEq, Repr

/-- The rules by which running text becomes inline nodes. -/
inductive InlineRule where
  | backslashEscape
  | codeSpan
  | emphasis
  | link
  | autolink
  | mailAutolink
  | rawHtml
  | lineBreak
  | softBreak
  | strikethrough
  | mark
  | insertion
  | superscript
  | subscript
  | bareUrl
  | footnote
  deriving DecidableEq, Repr

/-- The name by which hosts know a block rule. -/
def BlockRule.name : BlockRule → Text
  | fencedCode => "fenced_code"
  | indentedCode => "indent_code"
  | atxHeading => "axt_heading"
  | setextHeading => "setex_heading"
  | thematicBreak => "thematic_break"
  | blockQuote => "block_quote"
  | list => "list"
  | referenceDefinition => "ref_link"
  | rawHtml => "raw_html"
  | blankLine => "blank_line"
  | table => "table"
  | openTable => "nptable"
  | footnoteDefinition => "ref_footnote"

/-- The name by which hosts know an inline rule. -/
def InlineRule.name : InlineRule → Text
  | backslashEscape => "escape"
  | codeSpan => "codespan"
  | emphasis => "emphasis"
  | link => "link"
  | autolink => "auto_link"
  | mailAutolink => "auto_email"
  | rawHtml => "inline_html"
  | lineBreak => "linebreak"
  | softBreak => "softbreak"
  | strikethrough => "strikethrough"
  | mark => "mark"
  | insertion => "insert"
  | superscript => "superscript"
  | subscript => "subscript"
  | bareUrl => "url_link"
  | footnote => "footnote"

/-- The block rules of plain Markdown. -/
def plainBlockRules : List BlockRule :=
  [.fencedCode, .indentedCode, .atxHeading, .setextHeading, .thematicBreak, .blockQuote, .list,
    .referenceDefinition, .rawHtml, .blankLine]

/-- The inline rules of plain Markdown; a line end inside a paragraph has a rule of its own only
if it does not break the line. -/
def plainInlineRules (hardBreaks : Bool) : List InlineRule :=
  [.backslashEscape, .codeSpan, .emphasis, .link, .autolink, .mailAutolink, .rawHtml, .lineBreak]
    ++ if hardBreaks then [] else [.softBreak]

/-- The rules by which a document is read. -/
structure Grammar where
  /-- The block rules for lines that stand in no other block. -/
  blockRules : List BlockRule := plainBlockRules
  /-- The inline rules. -/
  inlineRules : List InlineRule
  /-- Each line end inside a paragraph breaks the line. -/
  hardBreaks : Bool
  deriving DecidableEq, Repr

/-- The grammar of plain Markdown. -/
def Grammar.plain (hardBreaks : Bool) : Grammar where
  inlineRules := plainInlineRules hardBreaks
  hardBreaks

/-- Whether `x` is one of a list, and the list without its first occurrence. -/
def eraseFirst? {α : Type} (p : α → Bool) : List α → Option (List α)
  | [] => none
  | x :: rest => if p x then some rest else (eraseFirst? p rest).map (x :: ·)

/-- Puts a rule before another one, or last if the other one is missing; a rule that is there
stays where it is. -/
def placeBefore {α : Type} [DecidableEq α] (rule next : α) (rules : List α) : List α :=
  if rules.contains rule then rules
  else rules.takeWhile (· != next) ++ rule :: rules.dropWhile (· != next)

/-- Additions to plain Markdown. -/
inductive Extension where
  | strikethrough
  | table
  | url
  | mark
  | insertion
  | superscript
  | subscript
  | footnotes
  deriving DecidableEq, Repr

namespace Extension

/-- All extensions. -/
def all : List Extension :=
  [strikethrough, table, url, mark, insertion, superscript, subscript, footnotes]

/-- The name of an extension. -/
def name : Extension → Text
  | strikethrough => "strikethrough"
  | table => "table"
  | url => "url"
  | mark => "mark"
  | insertion => "insert"
  | superscript => "superscript"
  | subscript => "subscript"
  | footnotes => "footnotes"

/-- The extension of that name. -/
def ofName? (t : Text) : Option Extension := all.find? fun extension => extension.name == t

/-- The extensions of GitHub's Markdown. -/
def github : List Extension := [strikethrough, table, url]

/-- The grammar with the rules of an extension. -/
def addTo (extension : Extension) (grammar : Grammar) : Grammar :=
  let withInline (rule next : InlineRule) : Grammar :=
    { grammar with inlineRules := placeBefore rule next grammar.inlineRules }
  match extension with
  | strikethrough => withInline .strikethrough .link
  | table =>
    -- no rule follows the ones for tables
    { grammar with
      blockRules := placeBefore .openTable .openTable (placeBefore .table .table grammar.blockRules) }
  | url => withInline .bareUrl .bareUrl
  | mark => withInline .mark .link
  | insertion => withInline .insertion .link
  | superscript => withInline .superscript .lineBreak
  | subscript => withInline .subscript .lineBreak
  | footnotes =>
    { withInline .footnote .link with
      blockRules := placeBefore .footnoteDefinition .referenceDefinition grammar.blockRules }

end Extension

end MarkdownSite.Markdown
