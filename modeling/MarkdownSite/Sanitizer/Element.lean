import MarkdownSite.Text.Basic

/-!
# Kinds of elements

How the elements of HTML differ in reading and in writing.
-/

namespace MarkdownSite.Sanitizer

/-- Elements that stop the search for the element that an end tag closes. -/
def specialElements : List Text :=
  List.map String.toList ["address", "applet", "area", "article", "aside", "base", "basefont",
    "bgsound", "blockquote", "body", "br", "button", "caption", "center", "col", "colgroup",
    "command", "dd", "details", "dir", "div", "dl", "dt", "embed", "fieldset", "figure", "footer",
    "form", "frame", "frameset", "h1", "h2", "h3", "h4", "h5", "h6", "head", "header", "hr",
    "html", "iframe", "image", "img", "input", "isindex", "li", "link", "listing", "marquee",
    "menu", "meta", "nav", "noembed", "noframes", "noscript", "object", "ol", "p", "param",
    "plaintext", "pre", "script", "section", "select", "style", "table", "tbody", "td",
    "textarea", "tfoot", "th", "thead", "title", "tr", "ul", "wbr", "xmp"]

/-- Whether an element stops the search for the element that an end tag closes. -/
def isSpecial (name : Text) : Bool := specialElements.contains name

/-- Elements that bound what is in scope. -/
def scopeElements : List Text :=
  ["applet", "caption", "html", "marquee", "object", "table", "td", "th"]

/-- How far a search for an open element goes. -/
inductive Scope where
  | general
  | button
  | list
  | table
  deriving DecidableEq, Repr

/-- Whether an element bounds a scope. -/
def Scope.isBounded (scope : Scope) (name : Text) : Bool :=
  match scope with
  | general => scopeElements.contains name
  | button => name == "button".toList || scopeElements.contains name
  | list => name == "ol".toList || name == "ul".toList || scopeElements.contains name
  | table => name == "html".toList || name == "table".toList

/-- Elements whose end tags may be left out. -/
def impliedEndElements : List Text := ["dd", "dt", "li", "option", "optgroup", "p", "rp", "rt"]

/-- Elements that are opened again where they have been closed out of turn. -/
def formattingElements : List Text :=
  List.map String.toList ["b", "big", "code", "em", "font", "i", "s", "small", "strike", "strong",
    "tt", "u"]

/-- Headings. -/
def headingElements : List Text := ["h1", "h2", "h3", "h4", "h5", "h6"]

/-- Elements that end a paragraph. -/
def paragraphEnders : List Text :=
  List.map String.toList ["address", "article", "aside", "blockquote", "center", "details", "dir",
    "div", "dl", "fieldset", "figcaption", "figure", "footer", "header", "hgroup", "main", "menu",
    "nav", "ol", "p", "section", "summary", "ul"]

/-- Elements whose end tags close everything in them. -/
def blockElements : List Text :=
  List.map String.toList ["address", "article", "aside", "blockquote", "button", "center",
    "details", "dialog", "dir", "div", "dl", "fieldset", "figcaption", "figure", "footer",
    "header", "hgroup", "listing", "main", "menu", "nav", "ol", "pre", "section", "summary", "ul"]

/-- Elements that hold formatting apart from what is around them. -/
def objectElements : List Text := ["applet", "marquee", "object"]

/-- Elements without content that stand in running text. -/
def inlineVoidElements : List Text := ["area", "br", "embed", "img", "keygen", "wbr", "input"]

/-- Elements without content whose place does not depend on running text. -/
def metadataElements : List Text :=
  ["base", "basefont", "bgsound", "command", "link", "meta", "param", "source", "track"]

/-- Elements whose content is no markup. -/
def verbatimElements : List Text :=
  ["style", "script", "xmp", "iframe", "noembed", "noframes", "noscript"]

/-- Elements that have their place in a table only. -/
def tablePartElements : List Text :=
  List.map String.toList ["caption", "col", "colgroup", "frame", "head", "tbody", "td", "tfoot",
    "th", "thead", "tr"]

/-- Groups of rows. -/
def rowGroupElements : List Text := ["tbody", "tfoot", "thead"]

/-- Cells. -/
def cellElements : List Text := ["td", "th"]

/-- Parts of tables into which no text goes: it goes before the table. -/
def fosteringElements : List Text := ["table", "tbody", "tfoot", "thead", "tr"]

/-- Elements that are written without an end tag. -/
def voidElements : List Text :=
  List.map String.toList ["area", "base", "br", "col", "command", "embed", "event-source", "hr",
    "img", "input", "link", "meta", "param", "source", "track"]

/-- The attributes of an element that are written without a value. -/
def booleanAttributes (name : Text) : List Text :=
  let all : List Text := ["irrelevant", "itemscope"]
  let own : List (Text × List Text) :=
    [("style", ["scoped"]), ("img", ["ismap"]), ("audio", ["autoplay", "controls"]),
      ("video", ["autoplay", "controls"]), ("script", ["defer", "async"]), ("details", ["open"]),
      ("datagrid", ["multiple", "disabled"]), ("command", ["hidden", "disabled", "checked",
        "default"]), ("hr", ["noshade"]), ("menu", ["autosubmit"]),
      ("fieldset", ["disabled", "readonly"]), ("option", ["disabled", "readonly", "selected"]),
      ("optgroup", ["disabled", "readonly"]), ("button", ["disabled", "autofocus"]),
      ("input", ["disabled", "readonly", "required", "autofocus", "checked", "ismap"]),
      ("select", ["disabled", "readonly", "autofocus", "multiple"]),
      ("output", ["disabled", "readonly"]), ("iframe", ["seamless"])]
  (own.lookup name).getD [] ++ all

end MarkdownSite.Sanitizer
