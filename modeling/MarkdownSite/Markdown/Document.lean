import MarkdownSite.Markdown.Inline.Reading
import MarkdownSite.Markdown.Structure
import MarkdownSite.Node.Basic

/-!
# Documents as nodes

A document is read in two steps: its lines become blocks, and then, when all definitions are known,
the text in the blocks becomes inline nodes. Footnotes are numbered in the order in which the text
refers to them.
-/

namespace MarkdownSite.Markdown

open Text

/-- The keys of the footnotes referred to so far, in the order of their numbers. -/
abbrev Numbered := StateM (List Text)

/-- The number of a footnote, a new one if this is the first reference to it. -/
def footnoteNumber (key : Text) : Numbered Nat := do
  let keys ← get
  let known := (keys.takeWhile (· != key)).length
  if known = keys.length then set (keys ++ [key])
  return known + 1

/-- The kind of the nodes for a style. -/
def Style.kind : Style → Text
  | emphasis => "emphasis"
  | strong => "strong"
  | strikethrough => "strikethrough"
  | mark => "mark"
  | insertion => "insert"
  | superscript => "superscript"
  | subscript => "subscript"

/-- The attributes of a link or an image. A title that the definition leaves out is null. -/
def LinkTarget.attributes (target : LinkTarget) : Entries :=
  let title : Entries :=
    if !target.title.isEmpty then [("title", .text target.title)]
    else if target.isDefined then [("title", .null)]
    else []
  ("url".toList, .text target.url) :: title

mutual

/-- An inline node as a node of the document. -/
def Inline.toNode : Inline → Numbered Node
  | .text content => return .text content
  | .code content => return .raw "codespan" [] content
  | .html content => return .raw "inline_html" [] content
  | .lineBreak => return .leaf "linebreak" []
  | .softBreak => return .leaf "softbreak" []
  | .styled style children => return .parent style.kind [] (← Inline.toNodes children)
  | .link target children => return .parent "link" target.attributes (← Inline.toNodes children)
  | .image target children => return .parent "image" target.attributes (← Inline.toNodes children)
  | .address found => return .parent "link" [("url", .text found.url)] [.text found.text]
  | .footnote key =>
    return .raw "footnote_ref" [("index", .int (← footnoteNumber key))] key

/-- Inline nodes as nodes of the document. -/
def Inline.toNodes : List Inline → Numbered (List Node)
  | [] => return []
  | inline :: rest => return (← inline.toNode) :: (← Inline.toNodes rest)

end

/-- The nodes of the text of a block. -/
def InlineContext.nodes (context : InlineContext) (t : Text) : Numbered (List Node) :=
  let isEdge (c : Char) : Bool := c == ' ' || c == '\r' || c == '\n' || c == '\t' || c == '\x0c'
  Inline.toNodes (context.read (stripWhere isEdge t))

/-- The attributes of a list. -/
def ListKind.attributes (kind : ListKind) : Entries :=
  let start : Entries := match kind.start with
    | none => []
    | some n => if n = 1 then [] else [("start", .int n)]
  [("depth".toList, .int kind.depth), ("ordered".toList, .bool kind.start.isSome)] ++ start

/-- The cells of a row. -/
def tableCells (context : InlineContext) (isHead : Bool) :
    List (Text × Option Alignment) → Numbered (List Node)
  | [] => return []
  | (text, alignment) :: rest => do
    let align : Value := match alignment with
      | some alignment => .text alignment.name
      | none => .null
    let cell : Node := .parent "table_cell" [("align", align), ("head", .bool isHead)]
      (← context.nodes text)
    return cell :: (← tableCells context isHead rest)

/-- The rows of a table. -/
def tableRows (context : InlineContext) (alignments : List (Option Alignment)) :
    List (List Text) → Numbered (List Node)
  | [] => return []
  | row :: rest => do
    let cells ← tableCells context false (row.zip alignments)
    return .parent "table_row" [] cells :: (← tableRows context alignments rest)

/-- A table as a node. -/
def TableSource.node (context : InlineContext) (table : TableSource) : Numbered Node := do
  let head ← tableCells context true (table.head.zip table.alignments)
  let rows ← tableRows context table.alignments table.rows
  return .parent "table" [] [.parent "table_head" [] head, .parent "table_body" [] rows]

mutual

/-- The nodes of a block; definitions have none. -/
def Block.toNodes (context : InlineContext) : Block → Numbered (List Node)
  | .paragraph text => return [.parent "paragraph" [] (← context.nodes text)]
  | .tightText text => return [.parent "block_text" [] (← context.nodes text)]
  | .heading level text =>
    return [.parent "heading" [("level", .int level)] (← context.nodes text)]
  | .code content info =>
    return [.raw "block_code" (if info.isEmpty then [] else [("info", .text info)]) content]
  | .html content => return [.raw "block_html" [] content]
  | .thematicBreak => return [.leaf "thematic_break" []]
  | .blankLine => return [.leaf "blank_line" []]
  | .quote blocks => return [.parent "block_quote" [] (← Block.toNodesAll context blocks)]
  | .list kind items => return [.parent "list" kind.attributes (← Block.itemNodes context items)]
  | .table source => return [← source.node context]
  | .definition _ _ => return []
  | .footnote _ _ => return []

/-- The nodes of blocks. -/
def Block.toNodesAll (context : InlineContext) : List Block → Numbered (List Node)
  | [] => return []
  | block :: rest => return (← block.toNodes context) ++ (← Block.toNodesAll context rest)

/-- The nodes of the items of a list. -/
def Block.itemNodes (context : InlineContext) : List (List Block) → Numbered (List Node)
  | [] => return []
  | item :: rest =>
    return .parent "list_item" [] (← Block.toNodesAll context item) ::
      (← Block.itemNodes context rest)

end

/-- The paragraphs of a footnote. -/
def paragraphNodes (context : InlineContext) : List Text → Numbered (List Node)
  | [] => return []
  | text :: rest =>
    return .parent "paragraph" [] (← context.nodes text) :: (← paragraphNodes context rest)

/-- The footnotes with the given keys, numbered from `number` on. -/
def footnoteItems (context : InlineContext) (texts : List (Text × Text)) (number : Nat) :
    List Text → Numbered (List Node)
  | [] => return []
  | key :: rest => do
    let paragraphs ← paragraphNodes context (footnoteParagraphs ((texts.lookup key).getD []))
    let item : Node :=
      .parent "footnote_item" [("key", .text key), ("index", .int number)] paragraphs
    return item :: (← footnoteItems context texts (number + 1) rest)

/-- A section of the footnotes that have been referred to; none if there is no reference. -/
def footnoteSection (context : InlineContext) (texts : List (Text × Text)) :
    Numbered (List Node) := do
  let keys ← get
  if keys.isEmpty then return []
  return [.parent "footnotes" [] (← footnoteItems context texts 1 keys)]

/-- As many sections of footnotes as asked for. -/
def footnoteSections (context : InlineContext) (texts : List (Text × Text)) :
    (count : Nat) → Numbered (List Node)
  | 0 => return []
  | count + 1 =>
    return (← footnoteSection context texts) ++ (← footnoteSections context texts count)

/-- The nodes of a document; `noteSections` sections of footnotes end it. -/
def Grammar.documentNodes (grammar : Grammar) (noteSections : Nat) (t : Text) : List Node :=
  let blocks := documentBlocks grammar.blockRules t
  let texts := Block.footnotesOf blocks
  let context : InlineContext := {
    rules := grammar.inlineRules
    hardBreaks := grammar.hardBreaks
    references := Block.definitionsOf blocks
    footnotes := texts.map (·.1) }
  let build : Numbered (List Node) := do
    return (← Block.toNodesAll context blocks) ++ (← footnoteSections context texts noteSections)
  (build.run []).1

end MarkdownSite.Markdown
