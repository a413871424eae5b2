import MarkdownSite.Proofs.Heading.Document

/-!
# Where the headings of a document stand

The headings that a run writes stand in the HTML that it returns, in the order of the document. Only
the handlers that are called around a heading can spoil this, so they are asked to keep what they
are given from its first tag on; what the others do is of no concern.
-/

namespace MarkdownSite

open Text

/-- The pieces stand in the text one after another, none of them inside another. -/
def StandInOrder : List Text → Text → Prop
  | [], _ => True
  | piece :: rest, t => ∃ before after, t = before ++ piece ++ after ∧ StandInOrder rest after

namespace StandInOrder

variable {pieces later : List Text} {t u : Text}

/-- Whatever comes before, the pieces stand after it. -/
theorem prepend (before : Text) (stand : StandInOrder pieces t) :
    StandInOrder pieces (before ++ t) := by
  cases pieces with
  | nil => trivial
  | cons piece rest =>
    obtain ⟨between, after, rfl, others⟩ := stand
    exact ⟨before ++ between, after, by simp only [List.append_assoc], others⟩

/-- Pieces of a text come before the pieces of a text that follows. -/
theorem append (first : StandInOrder pieces t) (second : StandInOrder later u) :
    StandInOrder (pieces ++ later) (t ++ u) := by
  induction pieces generalizing t with
  | nil => exact second.prepend t
  | cons piece rest ih =>
    obtain ⟨before, after, rfl, others⟩ := first
    exact ⟨before, after ++ u, by simp only [List.append_assoc], ih others⟩

/-- What stands in a part of a text stands in the text. -/
theorem of_infix (stand : StandInOrder pieces t) (part : t <:+: u) : StandInOrder pieces u := by
  obtain ⟨before, after, rfl⟩ := part
  have whole := (stand.prepend before).append (show StandInOrder [] after from trivial)
  rwa [List.append_nil] at whole

end StandInOrder

/-- The text from its first tag on. -/
def fromFirstTag (t : Text) : Text := t.dropWhile (· != '<')

/-- The pieces are elements that stand in the text one after another. -/
structure ElementsInOrder (pieces : List Text) (t : Text) : Prop where
  /-- Each starts with a tag. -/
  tagged : ∀ piece ∈ pieces, ∃ rest, piece = '<' :: rest
  /-- They stand in order. -/
  stand : StandInOrder pieces t

namespace ElementsInOrder

variable {pieces later : List Text} {t u : Text}

/-- There may be no pieces. -/
theorem nil (t : Text) : ElementsInOrder [] t := ⟨by simp, trivial⟩

/-- An element stands in itself. -/
theorem single (rest : Text) : ElementsInOrder ['<' :: rest] ('<' :: rest) where
  tagged _ member := ⟨rest, List.mem_singleton.mp member⟩
  stand := ⟨[], [], (List.append_nil _).symm, trivial⟩

/-- Elements of a text come before the elements of a text that follows. -/
theorem append (first : ElementsInOrder pieces t) (second : ElementsInOrder later u) :
    ElementsInOrder (pieces ++ later) (t ++ u) where
  tagged piece member := by
    rcases List.mem_append.mp member with inside | inside
    · exact first.tagged piece inside
    · exact second.tagged piece inside
  stand := first.stand.append second.stand

/-- Nothing before the first tag is needed. -/
theorem fromFirstTag (elements : ElementsInOrder pieces t) :
    ElementsInOrder pieces (fromFirstTag t) := by
  refine ⟨elements.tagged, ?_⟩
  cases pieces with
  | nil => trivial
  | cons piece rest =>
    obtain ⟨inside, rfl⟩ := elements.tagged piece List.mem_cons_self
    obtain ⟨before, after, rfl, others⟩ := elements.stand
    refine ⟨MarkdownSite.fromFirstTag before, after, ?_, others⟩
    -- the element starts with a tag, so that nothing of it goes
    rw [MarkdownSite.fromFirstTag, List.append_assoc, List.cons_append, List.dropWhile_append]
    split
    · next none =>
      rw [MarkdownSite.fromFirstTag, List.isEmpty_iff.mp none, List.dropWhile_cons_of_neg (by simp)]
      simp
    · simp [MarkdownSite.fromFirstTag]

end ElementsInOrder

/-! ## Handlers that keep what they are given -/

/-- The handler keeps its content from the first tag on. -/
def Handler.KeepsElements (handle : Handler) : Prop :=
  ∀ (content : Text) (named : Entries) (s s' : RenderState) (html : Text),
    (handle { positional := [.text content], named }).runOn s = (.ok html, s') →
      fromFirstTag content <:+: html

/-- Whatever the handler is called with, it makes an element. -/
def Handler.MakesElements (handle : Handler) : Prop :=
  ∀ (call : Call) (s s' : RenderState) (html : Text),
    (handle call).runOn s = (.ok html, s') → ∃ rest, html = '<' :: rest

/-- What follows the first tag stands at the end of the whole. -/
theorem fromFirstTag_suffix (t : Text) : fromFirstTag t <:+ t := List.dropWhile_suffix _

/-- A handler that puts something around its content keeps it. -/
theorem keepsElements_contentHandler {body : Text → Text}
    (around : ∀ content, content <:+: body content) :
    Handler.KeepsElements (contentHandler body) := by
  intro content named s s' html ran
  rw [runOn_contentHandler_ok ran]
  exact (fromFirstTag_suffix content).isInfix.trans (around content)

/-- A list has its content inside. -/
theorem infix_renderList (content : Text) (ordered start : Value) :
    content <:+: renderList content ordered start := by
  unfold renderList
  split
  · exact ⟨_, "</ol>\n", rfl⟩
  · exact ⟨"<ul>\n", "</ul>\n", rfl⟩

/-- The rest of an item after its box has all elements of the item. -/
theorem fromFirstTag_of_afterBox? {box content rest : Text} (plain : '<' ∉ box)
    (found : afterBox? box content = some rest) : fromFirstTag content = fromFirstTag rest := by
  have blanks (t : Text) : fromFirstTag t = fromFirstTag (t.dropWhile isBlank) := by
    conv_lhs => rw [fromFirstTag, ← List.takeWhile_append_dropWhile (p := isBlank) (l := t)]
    refine List.dropWhile_append_of_pos fun c member => ?_
    have blank := List.mem_takeWhile_imp member
    rw [bne_iff_ne]
    rintro rfl
    exact absurd blank (by decide)
  obtain ⟨inside, dropped, rfl⟩ := Option.map_eq_some_iff.mp found
  rw [blanks content, dropPrefix?_eq_some_iff.mp dropped, ← blanks inside]
  refine List.dropWhile_append_of_pos fun c member => ?_
  rw [bne_iff_ne]
  rintro rfl
  exact plain member

/-- A list item has the elements of its content inside, also if it starts with a box. -/
theorem infix_renderListItem (content : Text) :
    fromFirstTag content <:+: renderListItem content := by
  have inItem {rest box : Text} :
      rest <:+: "<li" ++ attributeHtml "style" "list-style: none" ++ ">" ++ box ++ ' ' :: rest
        ++ "</li>\n" :=
    ⟨"<li" ++ attributeHtml "style" "list-style: none" ++ ">" ++ box ++ [' '], "</li>\n",
      by simp⟩
  unfold renderListItem
  split
  · next rest found =>
    rw [fromFirstTag_of_afterBox? (by decide) found]
    exact (fromFirstTag_suffix rest).isInfix.trans inItem
  · next rest _ found =>
    rw [fromFirstTag_of_afterBox? (by decide) found]
    exact (fromFirstTag_suffix rest).isInfix.trans inItem
  · exact (fromFirstTag_suffix content).isInfix.trans ⟨"<li>", "</li>\n", by simp [elementHtml]⟩

/-- Quotes, lists and list items keep the elements inside them, unless their handlers are
replaced. -/
theorem keepsElements_container {page : Page} {replaced : Handlers}
    {extensions : List Markdown.Extension} {kind : Text} {handle : Handler}
    (container : kind ∈ ["block_quote".toList, "list", "list_item"])
    (untouched : replaced.get? kind = none)
    (handled : (page.renderer replaced extensions).handlerFor? kind = some handle) :
    handle.KeepsElements := by
  rw [NodeRenderer.handlerFor?, get?_renderer_of_untouched untouched] at handled
  simp only [List.mem_cons, List.not_mem_nil, or_false] at container
  rcases container with rfl | rfl | rfl
  · cases handled
    exact keepsElements_contentHandler fun content =>
      ⟨"<blockquote>\n", "</blockquote>\n", by simp⟩
  · cases handled
    intro content named s s' html ran
    cases runOn_handler_ok ran
    exact (fromFirstTag_suffix content).isInfix.trans (infix_renderList content _ _)
  · cases handled
    intro content named s s' html ran
    cases runOn_handler_ok ran
    exact infix_renderListItem content

/-- The default handler for headings makes elements. -/
theorem makesElements_heading {page : Page} {handle : Handler}
    (default : (pageHandlers page).get? "heading" = some handle) : handle.MakesElements := by
  intro call s s' html ran
  cases default
  obtain ⟨content, _, written⟩ := RenderM.runOn_except_bind_ok (runOn_handler_ok ran)
  unfold renderHeading at written
  dsimp only at written
  split at written
  · cases written
    exact ⟨_, rfl⟩
  obtain ⟨id, middle, -, shown⟩ := RenderM.runOn_bind_ok written
  cases id with
  | none =>
    cases shown
    exact ⟨_, rfl⟩
  | some id =>
    cases shown
    exact ⟨_, rfl⟩

/-! ## Headings in the HTML of trees -/

/-- No heading comes to lie inside a heading, and the nodes around headings keep elements. -/
inductive Node.CarriesHeadings (r : NodeRenderer) : Node → Prop
  /-- There is no heading inside the node. -/
  | bare (node : Node) (empty : headingsIn r node.children = []) : CarriesHeadings r node
  /-- The node is no heading and keeps what is inside, where there may be headings. -/
  | around (kind : Text) (attributes : Entries) (children : List Node) (other : kind ≠ "heading")
      (keeps : ∀ handle, r.handlerFor? kind = some handle → handle.KeepsElements)
      (inside : ∀ child ∈ children, child.CarriesHeadings r) :
      CarriesHeadings r (.parent kind attributes children)

/-- Quotes, lists and list items carry the headings inside them, unless their handlers are
replaced. -/
theorem Node.CarriesHeadings.container {page : Page} {replaced : Handlers}
    {extensions : List Markdown.Extension} {kind : Text} (attributes : Entries)
    {children : List Node} (container : kind ∈ ["block_quote".toList, "list", "list_item"])
    (untouched : replaced.get? kind = none)
    (inside : ∀ child ∈ children, child.CarriesHeadings (page.renderer replaced extensions)) :
    Node.CarriesHeadings (page.renderer replaced extensions)
      (.parent kind attributes children) := by
  refine .around kind attributes children ?_
    (fun handle => keepsElements_container container untouched) inside
  rintro rfl
  exact absurd container (by decide)

/-- A call for another node writes no heading. -/
theorem headingWritten_eq_nil (handle : Handler) (node : Node) (other : node.kind ≠ "heading")
    (call : Call) (s : RenderState) : headingWritten handle node call s = [] :=
  if_neg other

/-- A call writes at most the heading that it is for. -/
theorem headingWritten_sublist (handle : Handler) (node : Node) (call : Call) (s : RenderState) :
    ((headingWritten handle node call s).map WrittenHeading.node).Sublist
      (if node.kind = "heading".toList then [node] else []) := by
  unfold headingWritten
  by_cases heading : node.kind = "heading".toList
  · rw [if_pos heading, if_pos heading]
    split
    · exact List.Sublist.refl _
    · exact List.nil_sublist _
  · rw [if_neg heading, if_neg heading]
    exact List.Sublist.refl _

mutual

/-- The rendering of a node writes headings of the tree only, in their order, also where it
fails. -/
theorem headingsWritten_sublist (r : NodeRenderer) (node : Node) (s : RenderState) :
    ((node.headingsWritten r s).map WrittenHeading.node).Sublist (node.headings r) := by
  rw [Node.headingsWritten.eq_def]
  cases r.handlerFor? node.kind with
  | none => exact List.nil_sublist _
  | some handle =>
    match node with
    | .leaf kind attributes => exact headingWritten_sublist handle _ _ s
    | .raw kind attributes content => exact headingWritten_sublist handle _ _ s
    | .parent kind attributes children =>
      simp only [Node.headings]
      split
      · exact List.nil_sublist _
      · rw [List.map_append]
        refine (headingsWrittenIn_sublist r children s).append ?_
        split
        · exact headingWritten_sublist handle _ _ _
        · exact List.nil_sublist _

/-- The rendering of nodes one after another writes their headings only, in their order. -/
theorem headingsWrittenIn_sublist (r : NodeRenderer) (nodes : List Node) (s : RenderState) :
    ((headingsWrittenIn r nodes s).map WrittenHeading.node).Sublist (headingsIn r nodes) := by
  match nodes with
  | [] => exact List.nil_sublist _
  | node :: rest =>
    rw [headingsWrittenIn, headingsIn, List.map_append]
    refine (headingsWritten_sublist r node s).append ?_
    split
    · exact headingsWrittenIn_sublist r rest _
    · exact List.nil_sublist _

end

/-- The headings that a run writes for nodes, as HTML. -/
def headingHtmlIn (r : NodeRenderer) (nodes : List Node) (s : RenderState) : List Text :=
  (headingsWrittenIn r nodes s).map WrittenHeading.html

variable {r : NodeRenderer}

/-- What a call writes as a heading is what it returns. -/
theorem elements_call {node : Node} {handle : Handler}
    (makes : node.kind = "heading" → handle.MakesElements) {call : Call} {s s' : RenderState}
    {html : Text} (ran : (handle call).runOn s = (.ok html, s')) :
    ElementsInOrder ((headingWritten handle node call s).map WrittenHeading.html) html := by
  unfold headingWritten
  split
  · next heading =>
    rw [ran]
    split
    · next same =>
      cases same
      obtain ⟨rest, rfl⟩ := makes heading call s s' html ran
      exact .single rest
    · exact .nil html
  · exact .nil html

/-- If the headings of each node stand in its HTML, those of nodes one after another do. -/
theorem elements_nodes {nodes : List Node}
    (each : ∀ node ∈ nodes, ∀ s s' html, (renderNode r node).runOn s = (.ok html, s') →
      ElementsInOrder ((node.headingsWritten r s).map WrittenHeading.html) html)
    {s s' : RenderState} {html : Text} (ran : (renderNodes r nodes).runOn s = (.ok html, s')) :
    ElementsInOrder (headingHtmlIn r nodes s) html := by
  induction nodes generalizing s html with
  | nil =>
    rw [headingHtmlIn, headingsWrittenIn]
    exact .nil html
  | cons node rest ih =>
    rw [renderNodes] at ran
    obtain ⟨first, middle, one, others⟩ := RenderM.runOn_bind_ok ran
    obtain ⟨second, last, two, done⟩ := RenderM.runOn_bind_ok others
    cases done
    rw [headingHtmlIn, headingsWrittenIn, one, List.map_append]
    exact (each node List.mem_cons_self _ _ _ one).append
      (ih (fun other member => each other (List.mem_cons_of_mem node member)) two)

/-- The headings of a node stand in its HTML. -/
theorem elements_node (makes : ∀ handle, r.handlerFor? "heading" = some handle →
      handle.MakesElements) {node : Node} (carries : node.CarriesHeadings r) :
    ∀ s s' html, (renderNode r node).runOn s = (.ok html, s') →
      ElementsInOrder ((node.headingsWritten r s).map WrittenHeading.html) html := by
  -- by induction on how the headings are carried: the content is kept by what is around it
  have own (node : Node) {handle : Handler} (handled : r.handlerFor? node.kind = some handle)
      (heading : node.kind = "heading") : handle.MakesElements := by
    rw [heading] at handled
    exact makes handle handled
  induction carries with
  | bare node empty =>
    intro s s' html ran
    rw [Node.headingsWritten.eq_def]
    match node with
    | .leaf kind attributes =>
      obtain ⟨handle, handled, called⟩ := runOn_leaf_ok ran
      simp only [Node.kind, handled]
      exact elements_call (own (.leaf kind attributes) handled) called
    | .raw kind attributes content =>
      obtain ⟨handle, handled, called⟩ := runOn_raw_ok ran
      simp only [Node.kind, handled]
      exact elements_call (own (.raw kind attributes content) handled) called
    | .parent kind attributes children =>
      obtain ⟨handle, handled, ⟨address, -⟩ | ⟨inside, middle, first, called⟩⟩ :=
        runOn_parent_ok ran
      · simp only [Node.kind, handled, address, ↓reduceIte, List.map_nil]
        exact .nil html
      · have none : headingsWrittenIn r children s = [] := by
          have among := headingsWrittenIn_sublist r children s
          rw [show headingsIn r children = [] from empty] at among
          exact List.map_eq_nil_iff.mp (List.sublist_nil.mp among)
        simp only [Node.kind, handled]
        split
        · exact .nil html
        · rw [none, List.nil_append, first]
          exact elements_call (own (.parent kind attributes children) handled) called
  | around kind attributes children other keeps inside ih =>
    intro s s' html ran
    rw [Node.headingsWritten.eq_def]
    obtain ⟨handle, handled, ⟨address, -⟩ | ⟨content, middle, first, called⟩⟩ :=
      runOn_parent_ok ran
    · simp only [Node.kind, handled, address, ↓reduceIte, List.map_nil]
      exact .nil html
    · simp only [Node.kind, handled]
      split
      · exact .nil html
      · have unwritten := headingWritten_eq_nil handle (.parent kind attributes children) other
        simp only [first, unwritten, List.append_nil]
        have within := (elements_nodes ih first).fromFirstTag
        exact ⟨within.tagged, within.stand.of_infix (keeps handle handled _ _ _ _ _ called)⟩

/-- **The headings of a run stand in the HTML that it returns, in the order of the document**, if
the handlers around them keep what they are given. -/
theorem headings_stand_in_order (page : Page) {replaced : Handlers}
    (others : ∀ kind handle, (kind, handle) ∈ replaced → kind ≠ "heading")
    (extensions : List Markdown.Extension) {nodes : List Node}
    (carried : ∀ node ∈ nodes, node.CarriesHeadings (page.renderer replaced extensions))
    {s : RenderState} {html : Text}
    (gave : ((renderNodes (page.renderer replaced extensions) nodes).runOn s).1 = .ok html) :
    StandInOrder (headingHtmlIn (page.renderer replaced extensions) nodes s) html := by
  refine (elements_nodes (fun node member => elements_node ?_ (carried node member))
    (Prod.ext gave rfl)).stand
  intro handle handled
  have untouched := Handlers.get?_eq_none others
  exact makesElements_heading
    (headingHandler_of_default (get?_renderer_of_untouched untouched) handled)

end MarkdownSite
