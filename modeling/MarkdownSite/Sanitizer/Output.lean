import MarkdownSite.Log.Record
import MarkdownSite.Sanitizer.Element
import MarkdownSite.Sanitizer.Fragment
import MarkdownSite.Sanitizer.Link
import MarkdownSite.Sanitizer.Policy
import MarkdownSite.Sanitizer.Style
import MarkdownSite.Sanitizer.Tree
import MarkdownSite.Text.Escape

/-!
# Output of fragments

A fragment is written without what the policy refuses. Character references stay as they are
written; every other ampersand is escaped.
-/

namespace MarkdownSite.Sanitizer

open Text

/-- A part of the output. -/
inductive Output where
  | startTag (tag : StartTag)
  | endTag (name : Text)
  | text (t : Text)
  | spaces (t : Text)
  | reference (name : Text)
  | comment (t : Text)
  deriving DecidableEq, Repr

/-! ## What is kept -/

/-- An attribute as it is kept, if it is. -/
def Policy.keepAttribute (policy : Policy) (tag : Text) (attr : Text × Text) :
    Option (Text × Text) :=
  let (name, value) := attr
  if !policy.allowsAttribute tag name then none
  else if linkAttributes.contains name && !policy.allowsLink value then none
  else if name == "style".toList then some (name, sanitizeStyle policy.cssProperties value)
  else some (name, value)

/-- A tag as text. -/
def shownTag (tag : StartTag) : Text :=
  let attributes := tag.attributes.flatMap fun (name, value) =>
    ' ' :: name ++ ['=', '"'] ++ value ++ ['"']
  '<' :: tag.name ++ attributes ++ ['>']

/-- Characters that cannot be seen are shown as question marks. -/
def showInvisible (c : Char) : Char :=
  let n := c.toNat
  if n ≤ 8 ∨ n = 11 ∨ n = 12 ∨ (14 ≤ n ∧ n < 32) then '?' else c

/-- Text whose references are told from what is around them. A reference to an ampersand is one. -/
def textOutput (t : Text) : List Output :=
  let (first, parts) := splitAmpersands (t.map showInvisible)
  .text first :: parts.flatMap fun part =>
    match reference? part with
    | some (name, rest) =>
      [if name == "amp".toList then .text ['&'] else .reference name, .text rest]
    | none => [.text ('&' :: part)]

/-- Text with the white space at its ends set apart. -/
def runOutput (t : Text) : List Output :=
  let middle := t.dropWhile isHtmlSpace
  let left := t.take (t.length - middle.length)
  let kept := stripEndWhere isHtmlSpace middle
  .spaces left :: textOutput kept ++ [.spaces (middle.drop kept.length)]

mutual

/-- What is kept of a node. -/
def Policy.keepNode (policy : Policy) : HtmlNode → List Output
  | .text t => runOutput t
  | .comment t => if policy.stripComments then [] else [.comment t]
  | .element tag children =>
    let isVoid := voidElements.contains tag.name
    let inside := if isVoid then [] else policy.keepNodes children
    if policy.tags.contains tag.name then
      let kept : StartTag :=
        { tag with attributes := tag.attributes.filterMap (policy.keepAttribute tag.name) }
      .startTag kept :: inside ++ if isVoid then [] else [.endTag tag.name]
    else if policy.strip then inside
    else
      .text (shownTag tag) :: inside
        ++ if isVoid then [] else [.text ("</" ++ tag.name ++ ['>'])]

/-- What is kept of nodes. -/
def Policy.keepNodes (policy : Policy) : List HtmlNode → List Output
  | [] => []
  | node :: rest => policy.keepNode node ++ policy.keepNodes rest

end

/-- Texts that meet as one; empty ones are left out. -/
def mergeTexts : List Output → List Output
  | [] => []
  | .text [] :: rest => mergeTexts rest
  | .spaces [] :: rest => mergeTexts rest
  | .text t :: rest =>
    match mergeTexts rest with
    | .text u :: rest => .text (t ++ u) :: rest
    | rest => .text t :: rest
  | item :: rest => item :: mergeTexts rest

/-! ## How it is written -/

/-- The pieces of an attribute. A value with double quotes only stands in single ones. -/
def attributePieces (tag : Text) (attr : Text × Text) : List Text :=
  let (name, value) := attr
  if (booleanAttributes tag).contains name then [[' '], name]
  else
    let value := value.flatMap fun c =>
      if c = '&' then "&amp;" else if c = '<' then "&lt;" else [c]
    let isSingle := List.elem '"' value && !List.elem '\'' value
    let quote : Text := if isSingle then ['\''] else ['"']
    [[' '], name, ['='], quote, if isSingle then value else replace "\"" "&quot;" value, quote]

/-- The pieces of a part of the output; `isVerbatim` says that the text around it is no markup. -/
def Output.pieces (isVerbatim : Bool) : Output → List Text
  | startTag tag =>
    ('<' :: tag.name) :: tag.attributes.flatMap (attributePieces tag.name) ++ [['>']]
  | endTag name => ["</" ++ name ++ ['>']]
  | text t => [if isVerbatim then t else escapeContent t]
  | spaces t => [t]
  | reference name => ['&' :: name ++ [';']]
  | comment t => ["<!--" ++ escapeAttribute t ++ "-->"]

/-- Whether text after a part of the output is no markup. -/
def Output.verbatimAfter (isVerbatim : Bool) : Output → Bool
  | startTag tag => isVerbatim || verbatimElements.contains tag.name
  | endTag name => isVerbatim && !verbatimElements.contains name
  | _ => isVerbatim

/-- The pieces of the output. -/
def outputPieces (isVerbatim : Bool) : List Output → List Text
  | [] => []
  | item :: rest => item.pieces isVerbatim ++ outputPieces (item.verbatimAfter isVerbatim) rest

/-- A value in which ampersands are escaped but for those of references that stand for a
character. -/
def escapeAmpersands (t : Text) : Text :=
  let (first, parts) := splitAmpersands (replace "&amp;" "&" t)
  first ++ parts.flatMap fun part =>
    match reference? part with
    | some (name, rest) =>
      if (referenceValue? name).isSome then '&' :: name ++ ';' :: rest else "&amp;" ++ part
    | none => "&amp;" ++ part

/-- The pieces as one text. The piece after the equals sign and the quote of an attribute is a
value; an end tag or a comment goes on up to the next piece that is a closing bracket. -/
def writePieces (inTag afterEquals : Bool) : List Text → Text
  | [] => []
  | piece :: rest =>
    if !inTag then piece ++ writePieces (startsWith ['<'] piece) afterEquals rest
    else if piece == ['>'] then piece ++ writePieces false afterEquals rest
    else if afterEquals then
      if piece == ['"'] then piece ++ writePieces true true rest
      else escapeAmpersands piece ++ writePieces true false rest
    else piece ++ writePieces true (piece == ['=']) rest

/-- A fragment as it is written under a policy. -/
def Policy.write (policy : Policy) (nodes : List HtmlNode) : Text :=
  writePieces false false (outputPieces false (mergeTexts (policy.keepNodes nodes)))

/-! ## Sanitizing -/

/-- The fragment without what the policy refuses. -/
def Policy.clean (policy : Policy) (html : Text) : Text :=
  policy.write (fragmentNodes { tags := policy.tags, strip := policy.strip } html)

/-- Sanitizes HTML, with a report if its length changes; `clean` says what stays of it. -/
def sanitize (clean : Text → Text) (html : Text) : Logged Text := do
  let cleaned := clean html
  if cleaned.length ≠ html.length then
    debug .sanitizer ("Sanitizer changed output (" ++ Text.ofNat html.length ++ " -> "
      ++ Text.ofNat cleaned.length ++ " characters)")
  return cleaned

end MarkdownSite.Sanitizer
