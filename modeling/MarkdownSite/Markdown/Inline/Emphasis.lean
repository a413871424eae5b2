import MarkdownSite.Markdown.Inline.Basic
import MarkdownSite.Markdown.LinkParts
import MarkdownSite.Unicode.PunctuationTable

/-!
# Emphasis

Runs of `*` and `_` open and close emphasis. Whether a run can do either follows from the characters
at its two ends; which runs belong together is settled once all of a text has been read.
-/

namespace MarkdownSite.Markdown

open Text

/-- Whether a character is punctuation or a symbol, in any script. -/
def isPunctuation (c : Char) : Bool :=
  isAsciiPunctuation c || Unicode.inRanges Unicode.punctuationRanges c

/-- A run of delimiters. -/
structure DelimiterRun where
  /-- The character. -/
  mark : Char
  /-- How many of them there are at first. -/
  length : Nat
  /-- How many have not been used. -/
  left : Nat
  /-- The run can open emphasis. -/
  opens : Bool
  /-- The run can close emphasis. -/
  closes : Bool
  deriving DecidableEq, Repr

/-- The run of `length` characters between two others; at its ends a text has none. -/
def DelimiterRun.between (mark : Char) (length : Nat) (before after : Option Char) : DelimiterRun :=
  let spaceBefore := before.all isBlank
  let spaceAfter := after.all isBlank
  let punctuationBefore := before.any isPunctuation
  let punctuationAfter := after.any isPunctuation
  let leftFlanking := !spaceAfter && (!punctuationAfter || spaceBefore || punctuationBefore)
  let rightFlanking := !spaceBefore && (!punctuationBefore || spaceAfter || punctuationAfter)
  if mark = '_' then
    { mark, length, left := length
      opens := leftFlanking && (!rightFlanking || punctuationBefore)
      closes := rightFlanking && (!leftFlanking || punctuationAfter) }
  else { mark, length, left := length, opens := leftFlanking, closes := rightFlanking }

/-- The characters that have not been used. -/
def DelimiterRun.text (run : DelimiterRun) : Text := List.replicate run.left run.mark

/-- Whether two runs can open and close the same emphasis. Where one of them can do both, their
lengths must not add up to a multiple of three, unless each is one. -/
def DelimiterRun.pairsWith (opener closer : DelimiterRun) : Bool :=
  opener.opens && opener.mark == closer.mark
    && !((opener.closes || closer.opens) && (opener.length + closer.length) % 3 == 0
      && !(opener.length % 3 == 0 && closer.length % 3 == 0))

/-- What has been read of a text. -/
inductive Item where
  /-- Plain text that may go on; the characters are last first. -/
  | plain (reversed : Text)
  | inline (node : Inline)
  | delimiter (run : DelimiterRun)
  deriving Repr

/-- An item as a node; delimiters that are left are text. -/
def Item.toInline : Item → Inline
  | plain reversed => .text reversed.reverse
  | inline node => node
  | delimiter run => .text run.text

/-- The nearest run that opens what a run closes: the items after it, the run, and the items before
it. Items are last first. -/
def findOpener? (closer : DelimiterRun) :
    List Item → Option (List Item × DelimiterRun × List Item)
  | [] => none
  | item :: before =>
    let further : Option (List Item × DelimiterRun × List Item) :=
      (findOpener? closer before).map fun (after, opener, before) => (item :: after, opener, before)
    match item with
    | .delimiter opener =>
      if opener.pairsWith closer then some ([], opener, before) else further
    | _ => further

/-- The run as an item, unless all of it is used. -/
def DelimiterRun.remaining (run : DelimiterRun) : List Item :=
  if run.left = 0 then [] else [.delimiter run]

/-- Adds a run that closes emphasis to the items before it, which are last first; `fuel` bounds the
number of pairs. -/
def closeEmphasis : (fuel : Nat) → DelimiterRun → List Item → List Item
  | 0, closer, items => .delimiter closer :: items
  | fuel + 1, closer, items =>
    match findOpener? closer items with
    | some (inside, opener, before) =>
      let used := if opener.left ≥ 2 ∧ closer.left ≥ 2 then 2 else 1
      let style := if used = 2 then Style.strong else Style.emphasis
      let node := Inline.styled style (inside.reverse.map Item.toInline)
      let opener := { opener with left := opener.left - used }
      let closer := { closer with left := closer.left - used }
      let items := .inline node :: opener.remaining ++ before
      if closer.left = 0 then items else closeEmphasis fuel closer items
    | none =>
      if closer.opens then .delimiter closer :: items else .inline (.text closer.text) :: items

/-- Adds an item to the items before it, which are last first. -/
def addItem (items : List Item) (item : Item) : List Item :=
  match item with
  | .delimiter run => if run.closes then closeEmphasis run.left run items else item :: items
  | _ => item :: items

/-- The nodes of the items of a text, which are last first. -/
def resolveEmphasis (reversed : List Item) : List Inline :=
  ((reversed.reverse.foldl addItem []).map Item.toInline).reverse

end MarkdownSite.Markdown
