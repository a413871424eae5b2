import MarkdownSite.Markdown.HtmlTag
import MarkdownSite.Markdown.Line

/-!
# Blocks of HTML

Lines of HTML that stand between the blocks of a document. What ends such a block depends on how
it starts.
-/

namespace MarkdownSite.Markdown

open Text

/-- Elements whose content is not Markdown; their block ends with their closing tag. -/
def verbatimElements : List Text := ["pre", "script", "style", "textarea"]

/-- Elements that stand between blocks. -/
def blockElements : List Text :=
  List.map String.toList ["address", "article", "aside", "base", "basefont", "blockquote",
    "body", "caption", "center", "col", "colgroup", "dd", "details", "dialog", "dir", "div", "dl",
    "dt", "fieldset", "figcaption", "figure", "footer", "form", "frame", "frameset", "h1", "h2", "h3", "h4", "h5",
    "h6", "head", "header", "hr", "html", "iframe", "legend", "li", "link", "main", "menu",
    "menuitem", "meta", "nav", "noframes", "ol", "optgroup", "option", "p", "param", "search",
    "section", "source", "summary", "table", "tbody", "td", "tfoot", "th", "thead", "title", "tr",
    "track", "ul"]

/-- What ends a block of HTML. -/
inductive HtmlEnd where
  /-- The line on which this text stands, which is looked for in the text given. -/
  | text (close : Text) (after : Text)
  /-- The next blank line. -/
  | blankLine
  deriving DecidableEq, Repr

/-- How a line starts a block of HTML. -/
structure HtmlStart where
  /-- What ends the block. -/
  close : HtmlEnd
  /-- The block may follow a paragraph without a blank line between. -/
  interrupts : Bool
  deriving DecidableEq, Repr

/-- Whether a tag with attributes, of which the text after the name is given, fills its line. -/
def openTagFillsLine (t : Text) : Bool :=
  match (afterAttributes t.length t).dropWhile isSpaceTab with
  | '>' :: rest => rest.all isSpaceTab
  | _ => false

/-- Whether a closing tag, of which the text after the name is given, fills its line. -/
def closeTagFillsLine (t : Text) : Bool :=
  match t.dropWhile isSpaceTab with
  | '>' :: rest => rest.all isSpaceTab
  | _ => false

/-- How a tag of the given name starts a block; `after` follows the name on its line. -/
def htmlTagStart? (isClosing : Bool) (name after : Text) : Option HtmlStart :=
  let name := asciiLower name
  if !isClosing && verbatimElements.contains name then
    some ⟨.text ("</" ++ name ++ ">") after, true⟩
  else if blockElements.contains name then some ⟨.blankLine, true⟩
  else if (if isClosing then closeTagFillsLine after else openTagFillsLine after) then
    some ⟨.blankLine, false⟩
  else none

/-- How a line starts a block of HTML, given what follows its `<`. -/
def htmlStartAfter? (t : Text) : Option HtmlStart :=
  match t with
  | '!' :: '-' :: '-' :: rest => some ⟨.text "-->" rest, true⟩
  | '?' :: rest => some ⟨.text "?>" rest, true⟩
  | '!' :: '[' :: 'C' :: 'D' :: 'A' :: 'T' :: 'A' :: '[' :: rest => some ⟨.text "]]>" rest, true⟩
  | '!' :: c :: rest => if c.isUpper then some ⟨.text ">" rest, true⟩ else none
  | '/' :: rest => (tagName? rest).bind fun (name, after) => htmlTagStart? true name after
  | _ => (tagName? t).bind fun (name, after) => htmlTagStart? false name after

/-- How a line starts a block of HTML, if it does. -/
def htmlStart? (limit : Nat) (line : Text) : Option HtmlStart := do
  match ← dropIndent? limit line with
  | '<' :: rest => htmlStartAfter? rest
  | _ => none

/-- Whether a line starts a block of HTML wherever it stands. -/
def interruptsAsHtml (limit : Nat) (line : Text) : Bool :=
  ((htmlStart? limit line).map HtmlStart.interrupts).getD false

/-- The lines up to the first one that has the text, which belongs to them, and the others. -/
def throughLine (p : Text → Bool) : List Text → List Text × List Text
  | [] => ([], [])
  | line :: rest =>
    if p line then ([line], rest)
    else
      let (taken, left) := throughLine p rest
      (line :: taken, left)

/-- The lines of a block of HTML that the first line starts, and the lines after it. -/
def takeHtml (close : HtmlEnd) (line : Text) (rest : List Text) : List Text × List Text :=
  match close with
  | .text close after =>
    if contains close after then ([line], rest)
    else
      let (taken, left) := throughLine (fun l => contains close l) rest
      (line :: taken, left)
  | .blankLine => (line :: rest.takeWhile (!isBlankLine ·), rest.dropWhile (!isBlankLine ·))

end MarkdownSite.Markdown
