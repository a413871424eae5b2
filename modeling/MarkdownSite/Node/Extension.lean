import MarkdownSite.Markdown.Grammar
import MarkdownSite.Node.Handlers

/-!
# Rules for the nodes of extensions

An extension brings rules for the kinds of nodes that it adds.
-/

namespace MarkdownSite

open Text

/-- An element with its content on lines of its own. -/
def linesHtml (name content : Text) : Text :=
  '<' :: name ++ ">\n" ++ content ++ "</" ++ name ++ ">\n"

/-- A cell of a table, with its alignment as a style. -/
def tableCellHtml (content : Text) (alignment isHead : Value) : Text :=
  let name : Text := if isHead.isTruthy then "th" else "td"
  let style :=
    if alignment.isTruthy then attributeHtml "style" ("text-align:" ++ alignment.toText) else []
  "  <" ++ name ++ style ++ ">" ++ content ++ "</" ++ name ++ ">\n"

/-- The mark that refers to a footnote. -/
def footnoteMarkHtml (number : Text) : Text :=
  "<sup" ++ attributeHtml "class" "footnote-ref" ++ attributeHtml "id" ("fnref-" ++ number)
    ++ "><a" ++ attributeHtml "href" ("#fn-" ++ number) ++ ">" ++ number ++ "</a></sup>"

/-- A footnote, with a link back to its mark at the end of its last paragraph. -/
def footnoteHtml (content number : Text) : Text :=
  let content := trimEnd content
  let back := "<a" ++ attributeHtml "href" ("#fnref-" ++ number)
    ++ attributeHtml "class" "footnote" ++ ">&#8617;</a>"
  "<li" ++ attributeHtml "id" ("fn-" ++ number) ++ ">"
    ++ content.take (content.length - 4) ++ back ++ "</p></li>\n"

/-- The rules for the nodes of an extension. -/
def Markdown.Extension.nodeRules : Markdown.Extension → Handlers
  | strikethrough => [("strikethrough", contentHandler (elementHtml "del"))]
  | mark => [("mark", contentHandler (elementHtml "mark"))]
  | insertion => [("insert", contentHandler (elementHtml "ins"))]
  | superscript => [("superscript", contentHandler (elementHtml "sup"))]
  | subscript => [("subscript", contentHandler (elementHtml "sub"))]
  | url => []
  | table =>
    [("table", contentHandler (linesHtml "table")),
      ("table_head", contentHandler fun t => linesHtml "thead" (linesHtml "tr" t)),
      ("table_body", contentHandler (linesHtml "tbody")),
      ("table_row", contentHandler (linesHtml "tr")),
      ("table_cell", handler { required := ["text"], optional := ["align", "head"] } fun bound =>
        return tableCellHtml (← textArgument bound "text") (argument bound "align")
          (argument bound "head"))]
  | footnotes =>
    [("footnote_ref", handler { required := ["key", "index"] } fun bound =>
        return footnoteMarkHtml (argument bound "index").toText),
      ("footnotes", contentHandler fun t =>
        "<section" ++ attributeHtml "class" "footnotes" ++ ">\n<ol>\n" ++ t
          ++ "</ol>\n</section>\n"),
      ("footnote_item", handler { required := ["text", "key", "index"] } fun bound =>
        return footnoteHtml (← textArgument bound "text") (argument bound "index").toText)]

end MarkdownSite
