import MarkdownSite.Text.Basic

/-!
# Inline nodes

What running text is made of.
-/

namespace MarkdownSite.Markdown

/-- How a stretch of text is set off. -/
inductive Style where
  | emphasis
  | strong
  | strikethrough
  | mark
  | insertion
  | superscript
  | subscript
  deriving DecidableEq, Repr

/-- Where a link or an image leads. -/
structure LinkTarget where
  /-- The URL, escaped. -/
  url : Text
  /-- The title, empty if there is none. -/
  title : Text := []
  /-- The target stands in a definition and not in the link itself. -/
  isDefined : Bool := false
  deriving DecidableEq, Repr

/-- An address that stands as text. -/
structure Address where
  /-- The address as it is shown. -/
  text : Text
  /-- Where it leads, escaped. -/
  url : Text
  /-- The address as the document writes it. -/
  source : Text
  deriving DecidableEq, Repr

/-- A piece of running text. -/
inductive Inline where
  | text (content : Text)
  | code (content : Text)
  | html (content : Text)
  | lineBreak
  | softBreak
  | styled (style : Style) (children : List Inline)
  | link (target : LinkTarget) (children : List Inline)
  | image (target : LinkTarget) (children : List Inline)
  | address (address : Address)
  | footnote (key : Text)
  deriving Repr

end MarkdownSite.Markdown
