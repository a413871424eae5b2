import MarkdownSite.Markdown.Block
import MarkdownSite.Markdown.Container
import MarkdownSite.Markdown.Footnote
import MarkdownSite.Markdown.Grammar

/-!
# The blocks of a document

Lines become blocks from the first to the last. At each line the first rule that applies decides: it
takes this line and perhaps more, or refuses, and then the line is running text.
-/

namespace MarkdownSite.Markdown

open Text

/-- How deep quotes may stand in each other, and lists. -/
def maxDepth : Nat := 5

/-- How the lines of one container are read. -/
structure BlockContext where
  /-- The rules. -/
  rules : List BlockRule
  /-- In how many containers the lines stand. -/
  depth : Nat

/-- The context of the lines in a container. Below a certain depth a container does not hold one of
its own kind. -/
def BlockContext.inside (context : BlockContext) (container : BlockRule) : BlockContext where
  rules := if context.depth ≥ maxDepth then plainBlockRules.erase container else plainBlockRules
  depth := context.depth + 1

/-- The lines up to the next blank one, as a text. -/
def paragraphFrom (line : Text) (rest : List Text) : Text :=
  join "\n" (line :: rest.takeWhile (!isBlankLine ·))

/-- Whether a rule applies to a line, given the lines after it. -/
def BlockRule.applies (line : Text) (rest : List Text) : BlockRule → Bool
  | fencedCode => (fence? blockIndent line).isSome
  | indentedCode => isIndentedCode line
  | atxHeading => (atxHeading? blockIndent line).isSome
  | setextHeading => (setextLevel? line).isSome
  | thematicBreak => isThematicBreak blockIndent line
  | blockQuote => (quoted? blockIndent line).isSome
  | list => (listMarker? blockIndent line).isSome
  | referenceDefinition => (definedLabel? (paragraphFrom line rest)).isSome
  | rawHtml => (htmlStart? blockIndent line).isSome
  | blankLine => Markdown.isBlankLine line
  | table => startsTable line rest
  | openTable => startsOpenTable line rest
  | footnoteDefinition => (footnoteStart? line).isSome

/-- Puts a line of running text after the blocks so far, which are last first: it goes on with a
paragraph or starts one. -/
def addText (blocks : List Block) (line : Text) : List Block :=
  match blocks with
  | .paragraph text :: before => .paragraph (text ++ '\n' :: line) :: before
  | _ => .paragraph line :: blocks

/-- Whether the last block is a paragraph. -/
def endsInParagraph (blocks : List Block) : Bool := blocks.head?.any Block.isParagraph

/-- The block of fenced code that a fence opens, and the lines after it. -/
def takeFencedCode (fence : Fence) (rest : List Text) : Block × List Text :=
  let body := rest.takeWhile (!fence.isClosedBy ·)
  (.code (unlines (body.map (dropSpaces fence.indent))) (trim (unescape fence.info)),
    (rest.drop body.length).drop 1)

/-- The block of indented code that starts here, and the lines after it. -/
def takeIndentedCode (lines : List Text) : Block × List Text :=
  let body := lines.takeWhile fun line => isIndentedCode line || isBlankLine line
  let code := unlines (body.map fun line => dropSpaces 4 (expandLeadingTab 4 line))
  (.code (stripWhere (· == '\n') code) [], lines.drop body.length)

/-- The block of HTML that a line starts, and the lines after it. -/
def takeHtmlBlock (start : HtmlStart) (line : Text) (rest : List Text) : Block × List Text :=
  let (taken, left) := takeHtml start.close line rest
  (.html (unlines taken), left)

/-- The definition of a reference that starts here, and the lines after it. -/
def takeDefinition? (line : Text) (rest : List Text) : Option (Block × List Text) := do
  let text := paragraphFrom line rest
  let ((key, destination), after) ← definition? text
  let ended := (text.take (text.length - after.length)).count '\n'
  let taken := if after.isEmpty then ended + 1 else ended
  return (.definition key destination, (line :: rest).drop taken)

/-- A tight list has no paragraphs in its items. -/
def finishItems (isTight : Bool) (items : List (List Block)) : List (List Block) :=
  if isTight then items.map (·.map Block.tighten) else items

mutual

/-- The blocks of lines; `blocks` holds, last first, those before them, and `fuel` bounds the
number of steps. -/
def blocksFrom (context : BlockContext) (fuel : Nat) (blocks : List Block) (lines : List Text) :
    List Block :=
  match fuel, lines with
  | 0, _ => blocks.reverse
  | _, [] => blocks.reverse
  | fuel + 1, line :: rest =>
    match (context.rules.find? (·.applies line rest)).bind
        fun rule => takeBlock? context fuel blocks rule line rest with
    | some (blocks, rest) => blocksFrom context fuel blocks rest
    | none => blocksFrom context fuel (addText blocks line) rest
termination_by (fuel, 0)

/-- What a rule makes of a line: the blocks so far with what it adds to them, and the lines after
it. -/
def takeBlock? (context : BlockContext) (fuel : Nat) (blocks : List Block) (rule : BlockRule)
    (line : Text) (rest : List Text) : Option (List Block × List Text) :=
  let found (block : Block) (rest : List Text) : Option (List Block × List Text) :=
    some (block :: blocks, rest)
  match rule with
  | .fencedCode => (fence? blockIndent line).bind fun fence =>
      let (block, rest) := takeFencedCode fence rest
      found block rest
  | .indentedCode =>
    if endsInParagraph blocks then none
    else
      let (block, rest) := takeIndentedCode (line :: rest)
      found block rest
  | .atxHeading =>
    (atxHeading? blockIndent line).bind fun (level, text) => found (.heading level text) rest
  | .setextHeading =>
    match blocks, setextLevel? line with
    | .paragraph text :: before, some level => some (.heading level text :: before, rest)
    | _, _ =>
      if isThematicBreak blockIndent line then found .thematicBreak rest
      else takeList? context fuel blocks line rest
  | .thematicBreak => found .thematicBreak rest
  | .blockQuote =>
    (quoted? blockIndent line).bind fun afterMark =>
      let (taken, left) := takeQuote afterMark rest
      found (.quote (blocksIn (context.inside .blockQuote) fuel taken)) left
  | .list => takeList? context fuel blocks line rest
  | .referenceDefinition =>
    if endsInParagraph blocks then none
    else (takeDefinition? line rest).bind fun (block, rest) => found block rest
  | .rawHtml =>
    (htmlStart? blockIndent line).bind fun start =>
      if start.interrupts || !endsInParagraph blocks then
        let (block, rest) := takeHtmlBlock start line rest
        found block rest
      else none
  | .blankLine => found .blankLine (rest.dropWhile isBlankLine)
  | .table => (takeTable? line rest).bind fun (table, rest) => found (.table table) rest
  | .openTable => (takeOpenTable? line rest).bind fun (table, rest) => found (.table table) rest
  | .footnoteDefinition =>
    (takeFootnote? line rest).bind fun ((key, text), rest) => found (.footnote key text) rest
termination_by (fuel, 3)

/-- The list that a line starts. After a paragraph it must start with an item that has text, and at
number one if it has numbers. -/
def takeList? (context : BlockContext) (fuel : Nat) (blocks : List Block) (line : Text)
    (rest : List Text) : Option (List Block × List Text) :=
  (listMarker? blockIndent line).bind fun marker =>
    let startsAnywhere := !marker.text.all isBlank && marker.number.all (· == 1)
    if endsInParagraph blocks && !startsAnywhere then none
    else
      let (isTight, items, rest) := takeItems (context.inside .list) fuel (some marker) rest
      let kind := { depth := context.depth, start := marker.number }
      some (.list kind (finishItems isTight items) :: blocks, rest)
termination_by (fuel, 2)

/-- The items of a list from the one that a marker starts: whether no blank lines stand between or
in them, their blocks, and the lines after them. -/
def takeItems (context : BlockContext) (fuel : Nat) (marker : Option ListMarker)
    (rest : List Text) : Bool × List (List Block) × List Text :=
  match fuel, marker with
  | 0, _ => (true, [], rest)
  | _, none => (true, [], rest)
  | fuel + 1, some marker =>
    let item := takeItem marker rest
    let blocks := blocksFrom context fuel [] item.lines
    let (isTight, items, rest) := takeItems context fuel item.next item.rest
    (isTight && !item.spaced && !Block.isLoose blocks, blocks :: items, rest)
termination_by (fuel, 1)

/-- The blocks of the lines in a container. -/
def blocksIn (context : BlockContext) (fuel : Nat) (lines : List Text) : List Block :=
  blocksFrom context fuel [] lines
termination_by (fuel, 1)

end

/-- How many steps suffice for lines: each step takes a line, or a mark off one. -/
def stepsFor (lines : List Text) : Nat := lines.foldl (fun steps line => steps + line.length + 2) 1

/-- The blocks of a document. -/
def documentBlocks (rules : List BlockRule) (t : Text) : List Block :=
  let lines := documentLines t
  blocksFrom { rules, depth := 0 } (stepsFor lines) [] lines

end MarkdownSite.Markdown
