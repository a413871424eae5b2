import MarkdownSite.Markdown.Line
import MarkdownSite.Markdown.LinkParts

/-!
# Footnotes

A footnote is defined by a label after a caret and its text, which may go on on indented lines.
-/

namespace MarkdownSite.Markdown

open Text

/-- The label in brackets after a caret that a text starts with, and what follows. -/
def footnoteLabel? (t : Text) : Option (Text × Text) := do
  let rest ← dropPrefix? "[^" t
  label? rest

/-- The definition of a footnote that a line starts: how far it is indented, the key of its label
and the first line of its text. -/
def footnoteStart? (line : Text) : Option (Nat × Text × Text) := do
  let (label, rest) ← footnoteLabel? (← dropIndent? 3 line)
  match rest with
  | ':' :: c :: text => if isSpaceTab c then return (indentOf line, labelKey label, text) else none
  | _ => none

/-- Whether a line goes on with a footnote that is indented by `indent`: it has one to three spaces
more. -/
def continuesFootnote (indent : Nat) (line : Text) : Bool :=
  indent < indentOf line && indentOf line ≤ indent + 3

/-- The lines that go on with a footnote, the empty ones among them included, and the lines after
them. -/
def takeFootnoteFrom (indent : Nat) : List Text → List Text × List Text
  | [] => ([], [])
  | line :: rest =>
    if line.isEmpty || continuesFootnote indent line then
      let (taken, left) := takeFootnoteFrom indent rest
      (line :: taken, left)
    else ([], line :: rest)

/-- The footnote that a line starts, as its key and text, and the lines after it. -/
def takeFootnote? (line : Text) (rest : List Text) : Option ((Text × Text) × List Text) := do
  let (indent, key, first) ← footnoteStart? line
  let (taken, left) := takeFootnoteFrom indent rest
  return ((key, unlines (first :: taken)), left)

/-- The groups of lines between empty lines. -/
def lineGroups : List Text → List (List Text)
  | [] => []
  | line :: rest =>
    if line.isEmpty then [] :: lineGroups rest
    else
      match lineGroups rest with
      | [] => [[line]]
      | group :: groups => (line :: group) :: groups

/-- The paragraphs of the text of a footnote, without the spaces that its second line starts
with. -/
def footnoteParagraphs (text : Text) : List Text :=
  match (Text.lines text).drop 1 |>.find? (!·.isEmpty) with
  | none => [trim text]
  | some second =>
    let spaces := indentOf second
    let dedent (line : Text) : Text :=
      if indentOf line ≥ spaces then line.dropWhile (· == ' ') else line
    let body := trim (join "\n" ((splitOn '\n' text).map dedent))
    ((lineGroups (splitOn '\n' body)).filter (!·.isEmpty)).map (join "\n")

end MarkdownSite.Markdown
