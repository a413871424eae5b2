import MarkdownSite.Proofs.Node.Run

/-!
# Where smart punctuation has its place

Smart punctuation is for text that stands in the document as text. Where the only text of a tree is
that of addresses which stand for themselves, nothing of what is rendered depends on it: neither the
HTML nor the ids of headings, the descriptions of images or what is reported.
-/

namespace MarkdownSite

/-! ## Text outside of addresses -/

mutual

/-- Whether a text stands in a tree outside of the addresses that stand as text. -/
def Node.hasLooseText (node : Node) : Bool :=
  node.kind == "text" ||
    match node with
    | .leaf _ _ | .raw _ _ _ => false
    | .parent kind _ children =>
      if kind == "link" && node.isAutolink then false else anyLooseText children

/-- Whether a text stands in one of several trees outside of addresses. -/
def anyLooseText (nodes : List Node) : Bool :=
  match nodes with
  | [] => false
  | node :: rest => node.hasLooseText || anyLooseText rest

end

/-! ## Renderers that differ in the handler for text -/

/-- Two renderers have the same handlers and rules, except that they may handle text in ways of
their own. -/
structure NodeRenderer.SameButText (r other : NodeRenderer) : Prop where
  /-- The handlers. -/
  handlers : ∀ kind : Text, kind ≠ "text" → r.handlers.get? kind = other.handlers.get? kind
  /-- The rules. -/
  rules : ∀ kind : Text, kind ≠ "text" → r.rules.get? kind = other.rules.get? kind
  /-- A link has a handler, which takes addresses. -/
  takesLinks : (r.handlers.get? "link").isSome = true

namespace NodeRenderer.SameButText

variable {r other : NodeRenderer}

/-- What handles a node other than a text is the same. -/
theorem handlerFor? (same : SameButText r other) {kind : Text} (notText : kind ≠ "text") :
    r.handlerFor? kind = other.handlerFor? kind := by
  rw [NodeRenderer.handlerFor?, same.handlers kind notText, same.rules kind notText]
  rfl

/-- The same nodes stand for addresses. -/
theorem takesAddress (same : SameButText r other) {node : Node} (notText : node.kind ≠ "text") :
    r.takesAddress node = other.takesAddress node := by
  rw [NodeRenderer.takesAddress, same.handlers node.kind notText]
  rfl

/-- A link that is an address is handed over as one. -/
theorem takesAddress_of_isAutolink (same : SameButText r other) {attributes : Entries}
    {children : List Node} (address : (Node.parent "link" attributes children).isAutolink = true) :
    r.takesAddress (.parent "link" attributes children) = true := by
  rw [NodeRenderer.takesAddress, address, Node.kind, same.takesLinks]
  rfl

mutual

/-- A tree without loose text is rendered the same. -/
theorem renderNode_eq (same : SameButText r other) {node : Node}
    (bare : node.hasLooseText = false) : renderNode r node = renderNode other node := by
  unfold Node.hasLooseText at bare
  obtain ⟨plain, inside⟩ := Bool.or_eq_false_iff.mp bare
  have notText : node.kind ≠ "text" := beq_eq_false_iff_ne.mp plain
  rw [MarkdownSite.renderNode_eq, MarkdownSite.renderNode_eq, ← same.handlerFor? notText,
    ← same.takesAddress notText]
  cases r.handlerFor? node.kind with
  | none => rfl
  | some handle =>
    dsimp only
    split
    · rfl
    · rename_i notAddress
      match node with
      | .leaf kind attributes => rw [renderContent, renderContent]
      | .raw kind attributes content => rw [renderContent, renderContent]
      | .parent kind attributes children =>
        dsimp only at inside
        split at inside
        · rename_i address
          obtain ⟨link, address⟩ := Bool.and_eq_true_iff.mp address
          cases beq_iff_eq.mp link
          exact absurd (same.takesAddress_of_isAutolink address) notAddress
        · rw [renderContent, renderContent, renderNodes_eq same inside]

/-- Trees without loose text are rendered the same. -/
theorem renderNodes_eq (same : SameButText r other) {nodes : List Node}
    (bare : anyLooseText nodes = false) : renderNodes r nodes = renderNodes other nodes := by
  match nodes with
  | [] => rw [renderNodes, renderNodes]
  | node :: rest =>
    rw [anyLooseText, Bool.or_eq_false_iff] at bare
    rw [renderNodes, renderNodes, renderNode_eq same bare.1, renderNodes_eq same bare.2]

end

end NodeRenderer.SameButText

/-! ## Pages that differ in their punctuation -/

/-- The page with smart punctuation switched on or off, and with the given glyphs for quotes. -/
def Page.withPunctuation (page : Page) (smartypants : Bool) (quotes : Text.Quotes) : Page :=
  { page with options := { page.options with smartypants, quotes } }

/-- Only the handler for text knows of smart punctuation. -/
theorem Page.pageHandlers_withPunctuation (page : Page) : ∃ before after, ∀ smartypants quotes,
    pageHandlers (page.withPunctuation smartypants quotes) =
      before ++ ("text".toList, contentHandler
        (renderText (page.withPunctuation smartypants quotes))) :: after :=
  ⟨(pageHandlers page).take 5, (pageHandlers page).drop 6, fun _ _ => rfl⟩

/-- The handlers of a page for other kinds than text are the same with any smart punctuation. -/
theorem Page.get?_pageHandlers_withPunctuation (page : Page) (smartypants : Bool)
    (quotes : Text.Quotes) {kind : Text} (notText : kind ≠ "text") :
    (pageHandlers (page.withPunctuation smartypants quotes)).get? kind =
      (pageHandlers page).get? kind := by
  obtain ⟨before, after, cut⟩ := page.pageHandlers_withPunctuation
  have own : pageHandlers page = _ := cut page.options.smartypants page.options.quotes
  rw [own, cut, Handlers.get?, Handlers.get?, List.lookup_append, List.lookup_append,
    List.lookup_cons, List.lookup_cons, beq_false_of_ne notText]

/-- The renderers of a page with and without smart punctuation differ in the handler for text
only. -/
theorem Page.sameButText_withPunctuation (page : Page) (replaced : Handlers)
    (extensions : List Markdown.Extension) (smartypants : Bool) (quotes : Text.Quotes) :
    NodeRenderer.SameButText
      ((page.withPunctuation smartypants quotes).renderer replaced extensions)
      (page.renderer replaced extensions) where
  handlers kind notText := by
    change (replaced ++ _).lookup kind = (replaced ++ _).lookup kind
    rw [List.lookup_append, List.lookup_append]
    exact congrArg (replaced.lookup kind).or
      (page.get?_pageHandlers_withPunctuation smartypants quotes notText)
  rules _ _ := rfl
  takesLinks := by
    change ((replaced ++ pageHandlers _).lookup "link".toList).isSome = true
    rw [List.lookup_append, Option.isSome_or]
    exact Bool.or_true _

/-- **Smart punctuation reaches nothing but text**: where each text of the trees is that of an
address, they are rendered the same with any smart punctuation, from every state, with the same
heading ids and reports. -/
theorem punctuation_touches_text_only (page : Page) (replaced : Handlers)
    (extensions : List Markdown.Extension) {nodes : List Node} (bare : anyLooseText nodes = false)
    (smartypants : Bool) (quotes : Text.Quotes) :
    renderNodes ((page.withPunctuation smartypants quotes).renderer replaced extensions) nodes =
      renderNodes (page.renderer replaced extensions) nodes :=
  (page.sameButText_withPunctuation replaced extensions smartypants quotes).renderNodes_eq bare

/-- Quotes in an address in a heading, in code and in raw HTML stay straight. -/
theorem punctuation_touches_text_only_in_heading :
    let nodes : List Node :=
      [.parent "heading" [("level", .int 1)]
          [.parent "link" [("url", .text "http://a.b/--")] [.text "http://a.b/--"],
            .raw "codespan" [] "\"c\"", .raw "inline_html" [] "<b title='--'>"]]
    anyLooseText nodes = false ∧
      renderNodes (Page.renderer { options := { smartypants := false } } [] []) nodes =
        renderNodes (Page.renderer {} [] []) nodes := by
  intro nodes
  have bare : anyLooseText nodes = false := by decide +kernel
  exact ⟨bare, punctuation_touches_text_only {} [] [] bare false .standard⟩

end MarkdownSite
