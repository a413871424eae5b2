import MarkdownSite.Markdown.BlockStart
import MarkdownSite.Markdown.HtmlBlock

/-!
# Quotes and list items

Which lines belong to a quote or to a list item, and what they are without the marks and the
spaces that say so. A line of running text belongs to the paragraph before it even where those are
missing.
-/

namespace MarkdownSite.Markdown

open Text

/-! ## Quotes -/

/-- What a line of a quote says, given what follows its mark. -/
def quoteLine (afterMark : Text) : Text := dropSpaces 1 (expandLeadingTab 3 afterMark)

/-- Whether a quote with this first line goes on only on lines that have the mark. -/
def needsMarks (first : Text) : Bool :=
  isBlankLine first || isIndentedCode first || (fence? blockIndent first).isSome

/-- Whether a line without the mark ends a quote because it starts something else. -/
def endsQuote (line : Text) : Bool :=
  isBlankLine line || isThematicBreak blockIndent line || (fence? blockIndent line).isSome
    || (listMarker? blockIndent line).isSome || interruptsAsHtml blockIndent line

/-- The lines of a quote, and the lines after it; `afterBlank` says that the last line of the quote
so far is blank. -/
def takeQuoteFrom (marksNeeded afterBlank : Bool) : List Text → List Text × List Text
  | [] => ([], [])
  | line :: rest =>
    match quoted? blockIndent line with
    | some afterMark =>
      let content := quoteLine afterMark
      let (taken, left) := takeQuoteFrom marksNeeded (isBlankLine content) rest
      (content :: taken, left)
    | none =>
      if marksNeeded || afterBlank || endsQuote line then ([], line :: rest)
      else
        let (taken, left) := takeQuoteFrom marksNeeded false rest
        (expandLeadingTab 3 line :: taken, left)

/-- The lines of the quote that starts here, given what follows its first mark, and the lines after
it. -/
def takeQuote (afterMark : Text) (rest : List Text) : List Text × List Text :=
  let first := quoteLine afterMark
  let (taken, left) := takeQuoteFrom (needsMarks first) false rest
  ((first :: taken).map expandTab, left)

/-! ## List items -/

/-- The first line of an item, and how many spaces the further lines of the item start with. -/
def itemStart (marker : ListMarker) : Text × Nat :=
  let width := marker.indent + marker.mark.length
  let text := expandTab (expandLeadingTab 3 marker.text)
  let blanks := text.takeWhile isBlank
  if blanks.length = text.length then ([], width + 1)
  else
    -- five spaces and more are one space and indented code
    let gap := if startsWith "     " text then 1 else blanks.length
    (text.drop gap, width + gap)

/-- The lines of an item. -/
structure ItemLines where
  /-- The lines after the first one, as they are written. -/
  lines : List Text := []
  /-- The start of the next item of the same list, if there is one. -/
  next : Option ListMarker := none
  /-- A blank line stands before the next item. -/
  spaced : Bool := false
  /-- The lines after the item. -/
  rest : List Text := []

/-- The item with one more line in front. -/
def ItemLines.cons (line : Text) (item : ItemLines) : ItemLines :=
  { item with lines := line :: item.lines }

/-- What the further lines of an item are compared with. -/
structure ItemContext where
  /-- The start of the item. -/
  marker : ListMarker
  /-- How many spaces a line of the item starts with. -/
  width : Nat

/-- How many spaces may stand before what ends an item. -/
def ItemContext.limit (item : ItemContext) : Nat :=
  min blockIndent (item.marker.indent + item.marker.mark.length)

/-- The next item of the same list that a line starts. -/
def ItemContext.next? (item : ItemContext) (line : Text) : Option ListMarker :=
  (listMarker? item.limit line).filter fun marker =>
    marker.bullet == item.marker.bullet && marker.number.isSome == item.marker.number.isSome

/-- Whether a line that does not go on with an item starts another block. -/
def ItemContext.endsItem (item : ItemContext) (line : Text) : Bool :=
  (fence? item.limit line).isSome || (atxHeading? item.limit line).isSome
    || (quoted? item.limit line).isSome || interruptsAsHtml item.limit line
    || (listMarker? item.limit line).isSome

/-- The lines of an item after its first one. `afterBlank` says that the line before is blank, and
`started` that the item has text. -/
def takeItemFrom (item : ItemContext) (afterBlank started : Bool) : List Text → ItemLines
  | [] => {}
  | line :: rest =>
    if isBlankLine line then (takeItemFrom item true started rest).cons []
    else if (List.replicate item.width ' ').isPrefixOf (expandLeadingTab 4 line) then
      -- an item begins with one blank line at most
      if afterBlank && !started then { rest := line :: rest }
      else (takeItemFrom item false true rest).cons (expandLeadingTab 4 line)
    else if isThematicBreak item.limit line then { rest := line :: rest }
    else
      match item.next? line with
      | some next => { next := some next, spaced := afterBlank, rest }
      | none =>
        if item.endsItem line || afterBlank then { rest := line :: rest }
        else (takeItemFrom item false true rest).cons (expandLeadingTab 4 line)

/-- A line of an item without the spaces that say so. -/
def itemLine (width : Nat) (line : Text) : Text :=
  match dropPrefix? (List.replicate width ' ') line with
  | some rest => expandTab rest
  | none => line

/-- The lines of the item that a marker starts, the first one included and without the spaces that
say that they belong to it, and what comes after the item. -/
def takeItem (marker : ListMarker) (rest : List Text) : ItemLines :=
  let (first, width) := itemStart marker
  let item := takeItemFrom { marker, width } false (!first.isEmpty) rest
  let lines := (if first.isEmpty then [] else [first]) ++ item.lines.map (itemLine width)
  let kept := dropBlankEnd lines
  { item with lines := if kept.isEmpty then lines.take 1 else kept }

end MarkdownSite.Markdown
