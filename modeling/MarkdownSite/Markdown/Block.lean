import MarkdownSite.Markdown.Definition
import MarkdownSite.Markdown.Table

/-!
# Blocks

A document is a list of blocks. The running text in them is kept as it is written: it can be read
only when all definitions of link references are known.
-/

namespace MarkdownSite.Markdown

/-- What is known of a list besides its items. -/
structure ListKind where
  /-- In how many blocks the list stands. -/
  depth : Nat
  /-- The number of the first item, for an ordered list. -/
  start : Option Nat
  deriving DecidableEq, Repr

/-- A block of a document. -/
inductive Block where
  | paragraph (text : Text)
  /-- The text of a list item whose list has no blank lines. -/
  | tightText (text : Text)
  | heading (level : Nat) (text : Text)
  /-- Code, with what follows the fence if there is one. -/
  | code (content info : Text)
  | html (content : Text)
  | thematicBreak
  | blankLine
  | quote (blocks : List Block)
  | list (kind : ListKind) (items : List (List Block))
  | table (source : TableSource)
  | definition (key : Text) (destination : Destination)
  | footnote (key text : Text)
  deriving Repr

namespace Block

/-- Whether a block is a paragraph. -/
def isParagraph : Block → Bool
  | paragraph _ => true
  | _ => false

/-- Whether a block is a blank line. -/
def isBlankLine : Block → Bool
  | blankLine => true
  | _ => false

/-- A block as it stands in a list without blank lines. -/
def tighten : Block → Block
  | paragraph text => tightText text
  | block => block

/-- Whether the blocks of an item have a blank line, or more than one paragraph. -/
def isLoose (blocks : List Block) : Bool :=
  blocks.any isBlankLine || (blocks.filter isParagraph).length > 1

mutual

/-- The definitions in a block, in order. -/
def definitions : Block → References
  | definition key destination => [(key, destination)]
  | quote blocks => definitionsOf blocks
  | list _ items => definitionsOfItems items
  | _ => []

/-- The definitions in blocks, in order. -/
def definitionsOf : List Block → References
  | [] => []
  | block :: rest => block.definitions ++ definitionsOf rest

/-- The definitions in the items of a list, in order. -/
def definitionsOfItems : List (List Block) → References
  | [] => []
  | item :: rest => definitionsOf item ++ definitionsOfItems rest

end

/-- The texts of the footnotes that blocks define, by key. -/
def footnotesOf (blocks : List Block) : List (Text × Text) :=
  blocks.filterMap fun
    | footnote key text => some (key, text)
    | _ => none

end Block

end MarkdownSite.Markdown
