import MarkdownSite.Markdown.Line
import MarkdownSite.Markdown.LinkParts
import MarkdownSite.Url.Percent

/-!
# Definitions of link references

A definition gives a label a destination and perhaps a title. Links name it by the label.
-/

namespace MarkdownSite.Markdown

open Text

/-- Where a link leads. -/
structure Destination where
  /-- The URL, escaped. -/
  url : Text
  /-- The title, empty if there is none. -/
  title : Text
  deriving DecidableEq, Repr

/-- Destinations by the key of their label. -/
abbrev References := List (Text × Destination)

/-- What follows the blanks up to the end of a line; `none` if there is more on the line. -/
def endOfLine? (t : Text) : Option Text :=
  match t.dropWhile isSpaceTab with
  | [] => some []
  | '\n' :: rest => some rest
  | _ => none

/-- The destination of a definition, and what follows it. -/
def definedUrl? (t : Text) : Option (Text × Text) :=
  match dropBlanksWithinLines t with
  | '<' :: rest =>
    match bracketedDestination? rest with
    | some found => some found
    | none => none
  | rest =>
    let url := rest.takeWhile fun c => !isBlank c
    if url.isEmpty then none else some (url, rest.drop url.length)

/-- The title of a definition with its line, if a title follows the destination and ends its
line. -/
def definedTitle? (t : Text) : Option (Text × Text) := do
  if !t.head?.any isAsciiBlank then none
  let (title, rest) ← title? (dropBlanksWithinLines t)
  return (title, ← endOfLine? rest)

/-- The label that a definition at the start of a text gives a destination to, and what follows the
colon. -/
def definedLabel? (t : Text) : Option (Text × Text) := do
  match ← dropIndent? 3 t with
  | '[' :: rest =>
    match ← label? rest with
    | (label, ':' :: rest) => return (label, rest)
    | _ => none
  | _ => none

/-- The definition that a text starts with, as the key of its label and a destination, and what
follows its last line. -/
def definition? (t : Text) : Option ((Text × Destination) × Text) := do
  let (label, rest) ← definedLabel? t
  let key := labelKey label
  if key.isEmpty then none
  let (url, rest) ← definedUrl? rest
  let url := Url.target (unescape url)
  match definedTitle? rest with
  | some (title, rest) => return ((key, { url, title }), rest)
  | none => return ((key, { url, title := [] }), ← endOfLine? rest)

end MarkdownSite.Markdown
