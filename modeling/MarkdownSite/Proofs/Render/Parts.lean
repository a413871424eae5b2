import MarkdownSite.Proofs.Markdown.HtmlBlock
import MarkdownSite.Proofs.Node.Run
import MarkdownSite.Render.Hooked

/-!
# The parts of a render without hooks

Where nothing changes them, the parts are those that the options ask for.
-/

namespace MarkdownSite

open Markdown

/-- An extension has the name by which it is found. -/
theorem Markdown.Extension.ofName?_name (extension : Extension) :
    ofName? extension.name = some extension := by
  cases extension <;> decide +kernel

/-- Extensions are loaded by their names, and nothing is reported. -/
theorem loadExtensions_names (extensions : List Extension) :
    loadExtensions (extensions.map fun extension => .text extension.name) = pure extensions := by
  induction extensions with
  | nil => rfl
  | cons extension rest ih =>
    rw [List.map_cons, loadExtensions]
    simp only [Extension.ofName?_name, ih, pure_bind]

/-- The extensions that options ask for. -/
def RenderOptions.extensions (options : RenderOptions) : List Extension :=
  if options.gfmEnabled then Extension.github else []

/-- The extensions put their block rules after those of plain Markdown. -/
theorem RenderOptions.blockRules_extensions (options : RenderOptions) (hardBreaks : Bool) :
    ∃ more, (options.extensions.foldl (fun grammar extension => extension.addTo grammar)
      (Grammar.plain hardBreaks)).blockRules = plainBlockRules ++ more := by
  unfold extensions
  split
  · exact ⟨[.table, .openTable], rfl⟩
  · exact ⟨[], rfl⟩

/-- The options ask for no footnotes. -/
theorem RenderOptions.count_footnotes_extensions (options : RenderOptions) :
    options.extensions.count .footnotes = 0 := by
  unfold extensions
  split <;> rfl

/-- The extensions are handed to hooks as the list of their names. -/
theorem RenderOptions.extensionValue_eq (options : RenderOptions) :
    options.extensionValue =
      .list (options.extensions.map fun extension => .text extension.name) := by
  unfold extensionValue extensions
  split <;> rfl

namespace Page

/-- The parts that the options of a page ask for. -/
def plainParts (page : Page) : RenderParts where
  renderer := .ofPage page []
  grammar := .plain page.options.breaks
  extensions := page.options.extensions

/-- Without hooks a page has the parts that its options ask for, and nothing is reported. -/
theorem parts_none (page : Page) : page.parts none = pure page.plainParts := by
  have given (names : List Value) :
      (Rendering.ofLogged id (ExceptT.mk (pure (.ok names))) : Rendering (List Value)) =
        pure names := rfl
  have loaded (extensions : List Extension) :
      (Rendering.ofLogged id (pure extensions) : Rendering (List Extension)) =
        pure extensions := rfl
  unfold parts RenderParts.ofObjects plainParts
  simp only [pure_bind, RenderOptions.extensionValue_eq, extensionNames, given,
    loadExtensions_names, loaded]

/-- A line of HTML that fills a document is its only node. -/
theorem read_plainParts (page : Page) {line : Text} {start : HtmlStart}
    (fills : FillsAsHtml line start) :
    Markdown.read page.plainParts.grammar page.plainParts.extensions line =
      [.raw "block_html" [] (line ++ ['\n'])] := by
  obtain ⟨more, rules⟩ := page.options.blockRules_extensions page.options.breaks
  unfold Markdown.read plainParts
  simp only [RenderOptions.count_footnotes_extensions]
  exact fills.documentNodes_eq rules

/-- HTML between the blocks is rendered as it is. -/
theorem html_plainParts (page : Page) (content : Text) :
    page.plainParts.html [.raw "block_html" [] content] = pure (content ++ ['\n']) := by
  have run (records : List LogRecord) :
      (renderNodes (page.renderer [] page.options.extensions)
        [.raw "block_html" [] content]).run { records } = (.ok (content ++ ['\n']), { records }) :=
    runOn_blockHtml page page.options.extensions content { records }
  unfold RenderParts.html
  change Rendering.ofLogged .node (fun records =>
    (((renderNodes (page.renderer [] page.options.extensions)
        [.raw "block_html" [] content]).run { records }).1,
      ((renderNodes (page.renderer [] page.options.extensions)
        [.raw "block_html" [] content]).run { records }).2.records)) = _
  simp only [run]
  rfl

end Page

end MarkdownSite
