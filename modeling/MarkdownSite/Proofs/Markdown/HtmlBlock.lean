import MarkdownSite.Markdown.Document

/-!
# Documents of one block of HTML

A line of HTML that fills a document is the content of its only node, and it stays as it is.
-/

namespace MarkdownSite.Markdown

/-- Where no lines are left, the blocks so far are all. -/
theorem blocksFrom_nil (context : BlockContext) (fuel : Nat) (blocks : List Block) :
    blocksFrom context fuel blocks [] = blocks.reverse := by
  cases fuel with
  | zero => rw [blocksFrom]
  | succ fuel =>
    rw [blocksFrom]
    exact Nat.succ_ne_zero fuel

/-- A line that fills a document and is a block of HTML: no other rule comes first, and the block
ends with the line. -/
structure FillsAsHtml (line : Text) (start : HtmlStart) : Prop where
  /-- The line is all. -/
  line_only : documentLines line = [line]
  /-- The rule for HTML is the first that applies. -/
  rule : plainBlockRules.find? (·.applies line []) = some .rawHtml
  /-- The line starts a block. -/
  started : htmlStart? blockIndent line = some start
  /-- The block has this line alone. -/
  taken : takeHtml start.close line [] = ([line], [])

variable {line : Text} {start : HtmlStart}

/-- The only block of a document that a line of HTML fills. -/
theorem FillsAsHtml.documentBlocks_eq (fills : FillsAsHtml line start) (more : List BlockRule) :
    documentBlocks (plainBlockRules ++ more) line = [.html (line ++ ['\n'])] := by
  have rule : (plainBlockRules ++ more).find? (·.applies line []) = some .rawHtml := by
    rw [List.find?_append, fills.rule, Option.some_or]
  have block : takeHtmlBlock start line [] = (.html (line ++ ['\n']), []) := by
    unfold takeHtmlBlock
    rw [fills.taken]
    simp [unlines]
  have steps : stepsFor [line] = line.length + 2 + 1 := by
    simp only [stepsFor, List.foldl_cons, List.foldl_nil]
    omega
  rw [documentBlocks, fills.line_only, steps, blocksFrom, rule, Option.bind_some, takeBlock?,
    fills.started, Option.bind_some, block]
  simp only [endsInParagraph, List.head?_nil, Option.any_none, Bool.not_false, Bool.or_true,
    ↓reduceIte]
  rw [blocksFrom_nil]
  rfl

/-- The only node of a document that a line of HTML fills. -/
theorem FillsAsHtml.documentNodes_eq (fills : FillsAsHtml line start) {grammar : Grammar}
    {more : List BlockRule} (rules : grammar.blockRules = plainBlockRules ++ more) :
    grammar.documentNodes 0 line = [.raw "block_html" [] (line ++ ['\n'])] := by
  unfold Grammar.documentNodes
  rw [rules, fills.documentBlocks_eq]
  rfl

end MarkdownSite.Markdown
