import MarkdownSite.Node.Basic
import MarkdownSite.Node.Block

/-!
# The handlers of a page

The handlers that a render starts with, by the kind of node that they are for, and the rules for
the kinds that have no handler.
-/

namespace MarkdownSite

open Text

/-- Handlers by kind. -/
abbrev Handlers := List (Text × Handler)

namespace Handlers

/-- The handler for a kind. -/
def get? (handlers : Handlers) (kind : Text) : Option Handler := handlers.lookup kind

/-- The handlers with one set for a kind. -/
def set (handlers : Handlers) (kind : Text) (handler : Handler) : Handlers :=
  (kind, handler) :: handlers

end Handlers

/-- A handler that binds its arguments first. -/
def handler (parameters : Parameters) (body : Entries → RenderM Text) : Handler := fun call => do
  body (← parameters.bind call)

/-- A handler whose only parameter is the content. -/
def contentHandler (body : Text → Text) : Handler :=
  handler { required := ["text"] } fun bound => return body (← textArgument bound "text")

/-- A handler without parameters. -/
def constantHandler (html : Text) : Handler := handler { required := [] } fun _ => return html

/-- The handlers that a page starts with. -/
def pageHandlers (page : Page) : Handlers :=
  [("heading", handler { required := ["text", "level"], passes := true } fun bound => do
      renderHeading page
        { content := ← textArgument bound "text", level := (argument bound "level").toText }),
    ("link", handler
      { required := ["text", "url"], optional := ["title", "autolink"], passes := true }
      fun bound => do
        let link : Link := {
          text := ← textArgument bound "text"
          url := ← textArgument bound "url"
          title := ← optionalText bound "title"
          isAutolink := (argument bound "autolink").isTruthy }
        renderLink page link),
    ("image", handler
      { required := ["text", "url"], optional := ["title"], passes := true }
      fun bound => do
        let image : Image := {
          text := ← textArgument bound "text"
          url := ← textArgument bound "url"
          title := ← optionalText bound "title" }
        renderImage page image),
    ("paragraph", contentHandler (renderParagraph page)),
    ("list_item", handler { required := ["text"], passes := true } fun bound =>
      return renderListItem (← textArgument bound "text")),
    ("text", contentHandler (renderText page)),
    ("linebreak", constantHandler "<br>"),
    ("softbreak", constantHandler "\n"),
    ("block_code", handler
      { required := ["code"], optional := ["info"], passes := true }
      fun bound => do
        renderCodeBlock page (← textArgument bound "code") (← optionalText bound "info"))]

/-- A list; an ordered one may start at a number of its own. -/
def renderList (content : Text) (ordered start : Value) : Text :=
  if ordered.isTruthy then
    let start := match start with
      | .null => []
      | v => attributeHtml "start" v.toText
    "<ol" ++ start ++ ">\n" ++ content ++ "</ol>\n"
  else "<ul>\n" ++ content ++ "</ul>\n"

/-- The rules for kinds without a handler. -/
def basicRules : Handlers :=
  [("emphasis", contentHandler (elementHtml "em")),
    ("strong", contentHandler (elementHtml "strong")),
    ("codespan", contentHandler fun t => elementHtml "code" (escapeMarkup t)),
    ("inline_html", handler { required := ["html"] } fun bound => textArgument bound "html"),
    ("blank_line", constantHandler ""),
    ("thematic_break", constantHandler "<hr />\n"),
    ("block_text", contentHandler id),
    ("block_quote", contentHandler fun t => "<blockquote>\n" ++ t ++ "</blockquote>\n"),
    ("block_html", handler { required := ["html"] } fun bound =>
      return (← textArgument bound "html") ++ ['\n']),
    ("block_error", contentHandler fun t =>
      "<div class=\"error\"><pre>" ++ escapeMarkup t ++ "</pre></div>\n"),
    ("list", handler { required := ["text", "ordered"], passes := true } fun bound =>
      return renderList (← textArgument bound "text") (argument bound "ordered")
        (argument bound "start"))]

end MarkdownSite
