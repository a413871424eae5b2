import MarkdownSite.Proofs.Node.Inline
import MarkdownSite.Proofs.Node.Nested
import MarkdownSite.Proofs.Node.Renders

/-!
# Running text is well-nested

Text, emphasis, code, line ends and links, one after another and one inside another to any depth,
are always rendered, and the HTML closes every element that it opens, whatever the titles, the
options and the site are.
-/

namespace MarkdownSite

open Text Html

/-! ## Nodes of running text -/

/-- Attributes with which a link can be rendered. -/
structure LinkAttributes (attributes : Entries) : Prop where
  /-- It leads somewhere. -/
  url : ∃ url, attributes.get? "url" = some (.text url) ∧ Url.IsTarget url
  /-- A title that counts as true is a text. -/
  title : (argument attributes "title").isTruthy = true →
    ∃ t, argument attributes "title" = .text t
  /-- No attribute has a name that is taken for something else. -/
  free : ∀ entry ∈ attributes, entry.1 ≠ "text".toList ∧ entry.1 ≠ selfParameter

/-- A node of running text as a document has it. -/
inductive Node.IsRunning : Node → Prop
  /-- Text as it stands in the document. -/
  | text (content : Text) : IsRunning (.raw "text" [] content)
  /-- Code in running text. -/
  | code (content : Text) : IsRunning (.raw "codespan" [] content)
  /-- The end of a line that stays. -/
  | lineBreak : IsRunning (.leaf "linebreak" [])
  /-- The end of a line that counts as a blank. -/
  | softBreak : IsRunning (.leaf "softbreak" [])
  /-- Emphasis. -/
  | emphasis {children : List Node} (inside : ∀ child ∈ children, IsRunning child) :
      IsRunning (.parent "emphasis" [] children)
  /-- Strong emphasis. -/
  | strong {children : List Node} (inside : ∀ child ∈ children, IsRunning child) :
      IsRunning (.parent "strong" [] children)
  /-- A link. -/
  | link {attributes : Entries} (attributed : LinkAttributes attributes) {children : List Node}
      (inside : ∀ child ∈ children, IsRunning child) :
      IsRunning (.parent "link" attributes children)

/-! ## Elements -/

/-- An element of running text without attributes closes what it opens. -/
theorem nests_elementHtml {name content : Text} (element : isElement name = true)
    (filled : voidElements.contains name = false) (inside : Nests content) :
    Nests (elementHtml name content) := by
  have none : Fits name [] := by simp [Fits]
  rw [elementHtml_eq]
  exact nests_element element filled none inside

/-- The attributes of a link are those that links may have. -/
theorem Link.fits_attributes {link : Link} (target : Url.IsTarget link.url) (page : Page) :
    Fits "a" (link.attributes page) := by
  intro pair member
  rcases List.mem_append.mp member with first | added
  · rcases List.mem_append.mp first with href | title
    · rw [List.mem_singleton.mp href]
      exact ⟨show "href".toList ∈ attributesOf "a" by decide,
        Link.unmarked_href target page.options⟩
    · rw [eq_of_mem_attributeIf title]
      exact ⟨show "title".toList ∈ attributesOf "a" by decide, unmarked_escapeAttribute link.title⟩
  · obtain ⟨named, unmarked⟩ := Link.mem_added added
    refine ⟨?_, unmarked⟩
    rcases named with name | name
    · rw [name]
      decide
    · rw [name]
      decide

/-- A link closes what it opens if its text does. -/
theorem nests_renderLink {page : Page} {link : Link} (content : Nests link.text)
    (target : Url.IsTarget link.url) (records : List LogRecord) :
    Nests ((renderLink page link).run records).1 := by
  rw [run_renderLink]
  split
  · exact content
  have shown : Nests (link.shown page.options) := by
    unfold Link.shown
    cases link.hiddenAddress? page.options with
    | some address => exact nests_of_unmarked (Url.unmarked_mangle address)
    | none => exact content
  rw [Link.element_eq]
  exact nests_element (by decide) (by decide) (Link.fits_attributes target page) shown

/-- Content and attributes are bound for a handler of links or images. -/
theorem LinkAttributes.bind_text {named : Entries} (attributed : LinkAttributes named)
    (optional : List Text) (content : Text) :
    Parameters.bind { required := ["text", "url"], optional, passes := true }
      { positional := [.text content], named } = .ok (("text".toList, .text content) :: named) := by
  obtain ⟨url, leads, -⟩ := attributed.url
  refine Parameters.bind_text attributed.free (fun _ _ => .inl rfl) fun name member => ?_
  rw [List.mem_singleton.mp member, leads]
  rfl

/-- The handler for links renders the link that its call describes. -/
theorem runOn_linkHandler (page : Page) {handle : Handler}
    (default : (pageHandlers page).get? "link" = some handle) (content : Text) {named : Entries}
    (attributed : LinkAttributes named) (s : RenderState) :
    ∃ link : Link, link.text = content ∧ Url.IsTarget link.url ∧
      link.isAutolink = (argument named "autolink").isTruthy ∧
      (handle { positional := [.text content], named }).runOn s =
        (liftM (renderLink page link) : RenderM Text).runOn s := by
  obtain ⟨url, leads, target⟩ := attributed.url
  obtain ⟨title, titled⟩ := exists_optionalText attributed.title
  exact ⟨_, rfl, target, rfl,
    runOn_linkCall page default content leads titled attributed.free s⟩

/-! ## Rendering -/

/-- The handler for links renders a link if its text closes what it opens. -/
theorem rendersNested_link (page : Page) {handle : Handler}
    (default : (pageHandlers page).get? "link" = some handle) {content : Text}
    (nests : Nests content) {named : Entries} (attributed : LinkAttributes named) :
    Renders Nests (handle { positional := [.text content], named }) := by
  intro s
  obtain ⟨link, rfl, target, -, ran⟩ := runOn_linkHandler page default content attributed s
  exact ⟨_, _, ran, nests_renderLink nests target s.records⟩

/-- The attributes of an address that is handed over are those of a link. -/
theorem LinkAttributes.insert_autolink {attributes : Entries}
    (attributed : LinkAttributes attributes) :
    LinkAttributes (attributes.insert "autolink" (.bool true)) where
  url := by
    obtain ⟨url, leads, target⟩ := attributed.url
    exact ⟨url, by rw [Entries.get?_insert_of_ne (by decide), leads], target⟩
  title := by
    unfold argument
    rw [Entries.get?_insert_of_ne (by decide)]
    exact attributed.title
  free entry member := by
    rcases Entries.eq_or_mem_of_mem_insert member with rfl | before
    · exact ⟨by decide, by decide⟩
    · exact attributed.free entry before

/-- Nodes one after another are rendered and close what they open if each does. -/
theorem rendersNested_nodes {r : NodeRenderer} {nodes : List Node}
    (each : ∀ node ∈ nodes, Renders Nests (renderNode r node)) :
    Renders Nests (renderNodes r nodes) :=
  @renders_nodes r (fun _ => Nests) (fun _ => Nests) nests_nil .append nodes each

/-- A node of running text is rendered, and its HTML closes what it opens. -/
theorem rendersNested_node (page : Page) (extensions : List Markdown.Extension) {node : Node}
    (running : node.IsRunning) :
    Renders Nests (renderNode (page.renderer [] extensions) node) := by
  induction running with
  | text content =>
    exact renders_raw rfl
      (renders_contentHandler (nests_of_unmarked (unmarked_renormalize _)))
  | code content =>
    exact renders_raw rfl (renders_contentHandler
      (nests_elementHtml rfl rfl (nests_of_unmarked (unmarked_escapeMarkup content))))
  | lineBreak => exact renders_leaf rfl (renders_constantHandler nests_lineBreak)
  | softBreak =>
    exact renders_leaf rfl (renders_constantHandler (nests_of_unmarked (by decide)))
  | emphasis inside ih =>
    exact renders_filled rfl (by decide) (rendersNested_nodes ih) fun content nests =>
      renders_contentHandler (nests_elementHtml rfl rfl nests)
  | strong inside ih =>
    exact renders_filled rfl (by decide) (rendersNested_nodes ih) fun content nests =>
      renders_contentHandler (nests_elementHtml rfl rfl nests)
  | @link attributes attributed children inside ih =>
    have handled : (page.renderer [] extensions).handlerFor? "link" =
        (pageHandlers page).get? "link" := rfl
    cases address : (page.renderer [] extensions).takesAddress (.parent "link" attributes children)
      with
    | true =>
      exact renders_address handled address (rendersNested_link page rfl
        (nests_of_unmarked (unmarked_renormalize _)) attributed.insert_autolink)
    | false =>
      exact renders_parent handled address (rendersNested_nodes ih)
        fun content nests => rendersNested_link page rfl nests attributed

/-- **Running text is rendered as well-nested HTML**: every element that is opened is closed in
order, attributes stand in double quotes without a quote or an angle bracket inside, and there is no
angle bracket outside of the tags, whatever the text, the titles, the options and the site are. -/
theorem running_text_nests (page : Page) (extensions : List Markdown.Extension) {nodes : List Node}
    (running : ∀ node ∈ nodes, node.IsRunning) (s : RenderState) :
    ∃ html s', (renderNodes (page.renderer [] extensions) nodes).runOn s = (.ok html, s') ∧
      WellNested html := by
  obtain ⟨html, s', ran, nests⟩ := rendersNested_nodes
    (fun node member => rendersNested_node page extensions (running node member)) s
  exact ⟨html, s', ran, nests.wellNested⟩

/-- A link with a quote in its target and in its title, in emphasis. -/
theorem running_text_nests_of_quotes :
    let link : Node := .parent "link"
      [("url", .text (Url.target "/a?b=\"<")), ("title", .text "\"c>")] [.raw "text" [] "d<e"]
    ∃ html s', (renderNodes (Page.renderer {} [] []) [.parent "emphasis" [] [link]]).runOn {} =
        (.ok html, s') ∧ WellNested html := by
  intro link
  have attributed : LinkAttributes
      [("url", .text (Url.target "/a?b=\"<")), ("title", .text "\"c>")] := {
    url := ⟨_, rfl, Url.isTarget_target _⟩
    title := fun _ => ⟨_, rfl⟩
    free := by decide }
  have linked : link.IsRunning := .link attributed fun child member => by
    rw [List.mem_singleton.mp member]
    exact .text "d<e"
  have running : ∀ node ∈ [Node.parent "emphasis" [] [link]], node.IsRunning := by
    intro node member
    rw [List.mem_singleton.mp member]
    refine .emphasis fun child inside => ?_
    rw [List.mem_singleton.mp inside]
    exact linked
  exact running_text_nests {} [] running {}

end MarkdownSite
