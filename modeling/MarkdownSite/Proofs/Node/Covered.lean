import MarkdownSite.Proofs.Node.CoveredElements
import MarkdownSite.Proofs.Node.DescriptionList

/-!
# The standard policy and what rendering produces

Nodes of every kind that Markdown has with GitHub's extensions, one inside another to any depth, are
rendered as HTML whose elements and attributes the standard policy allows, with one exception: it
does not allow the number at which an ordered list starts.
-/

namespace MarkdownSite

open Text Html Sanitizer Sanitizer.Policy

/-! ## Nodes -/

/-- The kinds of nodes that have nodes inside and no attributes. -/
def plainKinds : List Text :=
  ["paragraph", "block_text", "block_quote", "emphasis", "strong", "strikethrough", "table",
    "table_head", "table_body", "table_row"]

/-- The kinds of nodes without content. -/
def emptyKinds : List Text := ["linebreak", "softbreak", "blank_line", "thematic_break"]

/-- The renderer of a page for GitHub's Markdown. -/
def Page.githubRenderer (page : Page) : NodeRenderer := page.renderer [] Markdown.Extension.github

/-- No attribute has the name of the first parameter of a handler or that of the renderer. -/
def LeavesFree (attributes : Entries) (first : Text) : Prop :=
  ∀ entry ∈ attributes, entry.1 ≠ first ∧ entry.1 ≠ selfParameter

instance (attributes : Entries) (first : Text) : Decidable (LeavesFree attributes first) :=
  inferInstanceAs (Decidable (∀ entry ∈ attributes, _))

/-- An image whose source and description are written without double quotes. -/
structure QuotesImage (page : Page) (url : Text) (children : List Node) : Prop where
  /-- The source. -/
  source : '"' ∉ Url.encode (({ text := [], url } : Image).source page)
  /-- The description, which is what is rendered inside: of images there, a title that ends like the
  start of a description passes for one. -/
  description : ∀ s html s', (renderNodes page.githubRenderer children).runOn s = (.ok html, s') →
    '"' ∉ imageDescription html

/-- The description is written so where neither raw HTML nor another image is inside. -/
theorem quotesImage_of_isInline {page : Page} {url : Text} {children : List Node}
    (source : '"' ∉ Url.encode (({ text := [], url } : Image).source page))
    (running : ∀ child ∈ children, child.IsInline) : QuotesImage page url children where
  source
  description s html s' ran := by
    have markup : Markup html := runOn_renderNodes_ok .nil .append
      (fun child member _ _ _ => markup_renderNode (running child member)) ran
    exact markup.unmarked_imageDescription.quote_not_mem

/-- A node of GitHub's Markdown, other than raw HTML, with attributes as a document gives them. -/
inductive Node.IsMarkdown (page : Page) : Node → Prop
  /-- Text as it stands in the document. -/
  | text (content : Text) : IsMarkdown page (.raw "text" [] content)
  /-- Code in running text. -/
  | code (content : Text) : IsMarkdown page (.raw "codespan" [] content)
  /-- A block of code. -/
  | codeBlock (content : Text) {attributes : Entries} (free : LeavesFree attributes "code")
      (info : (argument attributes "info").isTruthy = true →
        ∃ t, argument attributes "info" = .text t) :
      IsMarkdown page (.raw "block_code" attributes content)
  /-- A node without content. -/
  | empty {kind : Text} (known : kind ∈ emptyKinds) : IsMarkdown page (.leaf kind [])
  /-- A node without attributes. -/
  | plain {kind : Text} (known : kind ∈ plainKinds) {children : List Node}
      (inside : ∀ child ∈ children, IsMarkdown page child) :
      IsMarkdown page (.parent kind [] children)
  /-- A link. -/
  | link {attributes : Entries} (attributed : LinkAttributes attributes)
      (unmarked : attributes.get? "autolink" = none) {children : List Node}
      (inside : ∀ child ∈ children, IsMarkdown page child) :
      IsMarkdown page (.parent "link" attributes children)
  /-- An image. -/
  | image {attributes : Entries} (attributed : LinkAttributes attributes) {url : Text}
      (leads : attributes.get? "url" = some (.text url)) {children : List Node}
      (quoted : QuotesImage page url children)
      (inside : ∀ child ∈ children, IsMarkdown page child) :
      IsMarkdown page (.parent "image" attributes children)
  /-- A heading. -/
  | heading {attributes : Entries} (free : LeavesFree attributes "text") {level : Nat}
      (levelled : attributes.get? "level" = some (.int level)) (range : 1 ≤ level ∧ level ≤ 6)
      {children : List Node} (inside : ∀ child ∈ children, IsMarkdown page child) :
      IsMarkdown page (.parent "heading" attributes children)
  /-- A list. -/
  | list {attributes : Entries} (free : LeavesFree attributes "text")
      (ordered : (attributes.get? "ordered").isSome = true) {children : List Node}
      (inside : ∀ child ∈ children, IsMarkdown page child) :
      IsMarkdown page (.parent "list" attributes children)
  /-- An item of a list. -/
  | item {attributes : Entries} (free : LeavesFree attributes "text") {children : List Node}
      (inside : ∀ child ∈ children, IsMarkdown page child) :
      IsMarkdown page (.parent "list_item" attributes children)
  /-- A cell of a table. -/
  | cell {attributes : Entries}
      (named : ∀ entry ∈ attributes, entry.1 = "align".toList ∨ entry.1 = "head".toList)
      (quoted : '"' ∉ (argument attributes "align").toText) {children : List Node}
      (inside : ∀ child ∈ children, IsMarkdown page child) :
      IsMarkdown page (.parent "table_cell" attributes children)

/-- An ordered list that starts at a number of its own is shown by a node. What is inside of an
image is shown in its caption only. -/
inductive Node.ShowsStart (options : RenderOptions) : Node → Prop
  /-- The node is such a list. -/
  | here {attributes : Entries} {children : List Node}
      (ordered : (argument attributes "ordered").isTruthy = true)
      (start : argument attributes "start" ≠ .null) :
      ShowsStart options (.parent "list" attributes children)
  /-- A node inside shows such a list. -/
  | inside {kind : Text} {attributes : Entries} {children : List Node} {child : Node}
      (shown : kind = "image" → options.figcaption = true) (member : child ∈ children)
      (within : ShowsStart options child) : ShowsStart options (.parent kind attributes children)

namespace Node

variable {options : RenderOptions} {attributes : Entries} {children : List Node}

/-- Nodes that show no list with a start of its own. -/
def NoneShowsStart (options : RenderOptions) (nodes : List Node) : Prop :=
  ∀ node ∈ nodes, ¬node.ShowsStart options

/-- Of nodes one after another none shows a start if neither the first nor another does. -/
theorem noneShowsStart_cons (node : Node) (rest : List Node) :
    NoneShowsStart options (node :: rest) ↔
      ¬node.ShowsStart options ∧ NoneShowsStart options rest := List.forall_mem_cons

/-- A node without nodes inside shows no list. -/
theorem not_showsStart_leaf (kind : Text) : ¬(leaf kind attributes).ShowsStart options := nofun

/-- A node whose content is text shows no list. -/
theorem not_showsStart_raw (kind content : Text) :
    ¬(raw kind attributes content).ShowsStart options := nofun

/-- A list shows a start of its own where it has one or where a node inside does. -/
theorem not_showsStart_list :
    ¬(parent "list" attributes children).ShowsStart options ↔ NoneShowsStart options children ∧
      ¬((argument attributes "ordered").isTruthy = true ∧ argument attributes "start" ≠ .null) := by
  constructor
  · intro none
    exact ⟨fun child member within => none (.inside (fun same => by cases same) member within),
      fun own => none (.here own.1 own.2)⟩
  · rintro ⟨inside, own⟩ shows
    cases shows with
    | here ordered start => exact own ⟨ordered, start⟩
    | inside shown member within => exact inside _ member within

/-- An image shows a start where a node inside does and is shown in a caption. -/
theorem not_showsStart_image :
    ¬(parent "image" attributes children).ShowsStart options ↔
      (options.figcaption = true → NoneShowsStart options children) := by
  constructor
  · intro none on child member within
    exact none (.inside (fun _ => on) member within)
  · intro none shows
    cases shows with
    | inside shown member within => exact none (shown rfl) _ member within

/-- Any other node shows a start where a node inside does. -/
theorem not_showsStart_parent {kind : Text} (other : kind ≠ "list" ∧ kind ≠ "image") :
    ¬(parent kind attributes children).ShowsStart options ↔ NoneShowsStart options children := by
  constructor
  · intro none child member within
    exact none (.inside (fun image => absurd image other.2) member within)
  · intro none shows
    cases shows with
    | here ordered start => exact other.1 rfl
    | inside shown member within => exact none _ member within

end Node

/-! ## Rendering -/

section Rendered

variable {page : Page} {attributes : Entries} {children : List Node}

/-- HTML is covered by the standard policy under a condition. -/
abbrev Covered (condition : Prop) : Text → Prop := standard.CoversIf condition

/-- Nodes one after another are covered if none of them shows a start. -/
theorem renders_covered_nodes {r : NodeRenderer} {options : RenderOptions} {nodes : List Node}
    (each : ∀ node ∈ nodes, Renders (Covered (¬node.ShowsStart options)) (renderNode r node)) :
    Renders (Covered (Node.NoneShowsStart options nodes)) (renderNodes r nodes) := by
  have nil : Covered (Node.NoneShowsStart options []) [] :=
    (covers_of_plain (by simp)).coversIf (by simp [Node.NoneShowsStart])
  refine @renders_nodes r (fun node => Covered (¬node.ShowsStart options))
    (fun nodes => Covered (Node.NoneShowsStart options nodes)) nil ?_ nodes each
  intro node rest first second one all
  exact (one.append all).congr (Node.noneShowsStart_cons node rest).symm

/-- A node without attributes is covered if its content is. -/
theorem renders_covered_plain {kind : Text} (known : kind ∈ plainKinds)
    (inside : Renders (Covered (Node.NoneShowsStart page.options children))
      (renderNodes page.githubRenderer children)) :
    Renders (Covered (¬(Node.parent kind [] children).ShowsStart page.options))
      (renderNode page.githubRenderer (.parent kind [] children)) := by
  have apart : kind ≠ "list" ∧ kind ≠ "image" ∧ kind ≠ "link" := by
    revert kind
    decide
  rw [Node.not_showsStart_parent ⟨apart.1, apart.2.1⟩]
  have wrapped {body : Text → Text}
      (handled : page.githubRenderer.handlerFor? kind = some (contentHandler body))
      (wraps : ∀ content condition, Covered condition content → Covered condition (body content)) :
      Renders (Covered (Node.NoneShowsStart page.options children))
        (renderNode page.githubRenderer (.parent kind [] children)) :=
    renders_filled handled apart.2.2 inside fun content piece =>
      renders_contentHandler (wraps content _ piece)
  simp only [plainKinds, List.mem_cons, List.not_mem_nil, or_false] at known
  rcases known with rfl | rfl | rfl | rfl | rfl | rfl | rfl | rfl | rfl | rfl
  · exact wrapped rfl fun content condition piece => piece.renderParagraph page
  · exact wrapped rfl fun content condition piece => piece
  · exact wrapped rfl fun content condition piece => piece.between (by decide) (by decide)
  · exact wrapped rfl fun content condition piece => piece.elementHtml (by decide)
  · exact wrapped rfl fun content condition piece => piece.elementHtml (by decide)
  · exact wrapped rfl fun content condition piece => piece.elementHtml (by decide)
  · exact wrapped rfl fun content condition piece => piece.linesHtml (by decide)
  · exact wrapped rfl fun content condition piece =>
      (piece.linesHtml (show "tr".toList ∈ standard.tags by decide)).linesHtml (by decide)
  · exact wrapped rfl fun content condition piece => piece.linesHtml (by decide)
  · exact wrapped rfl fun content condition piece => piece.linesHtml (by decide)

/-- The handler for links renders a link that is covered if its text is. -/
theorem renders_covered_link {condition : Prop} {handle : Handler}
    (default : (pageHandlers page).get? "link" = some handle) {content : Text}
    (piece : Covered condition content) (attributed : LinkAttributes attributes)
    (address : (argument attributes "autolink").isTruthy = true → condition) :
    Renders (Covered condition)
      (handle { positional := [.text content], named := attributes }) := by
  intro s
  obtain ⟨link, rfl, target, auto, ran⟩ := runOn_linkHandler page default content attributed s
  rw [← auto] at address
  exact ⟨_, _, ran, piece.renderLink target address s.records⟩

/-- The handler for images renders an image that is covered if its caption is, where it has one. -/
theorem renders_covered_image {condition : Prop} {handle : Handler}
    (default : (pageHandlers page).get? "image" = some handle) {content : Text}
    (piece : Covered condition content) (described : '"' ∉ imageDescription content)
    (attributed : LinkAttributes attributes) {url : Text}
    (leads : attributes.get? "url" = some (.text url))
    (source : '"' ∉ Url.encode (({ text := [], url } : Image).source page)) :
    Renders (Covered (page.options.figcaption = true → condition))
      (handle { positional := [.text content], named := attributes }) := by
  obtain ⟨title, titled⟩ := exists_optionalText_cons (show "title".toList ≠ "text".toList by decide)
    attributed.title (.text content)
  cases default
  have text : textArgument (("text".toList, .text content) :: attributes) "text" = .ok content := rfl
  refine renders_handler (attributed.bind_text ["title"] content) (renders_ok_bind text
    (renders_ok_bind (textArgument_cons (by decide) leads _) (renders_ok_bind titled
      (renders_logged fun records => ?_))))
  have shown : Covered condition ({ text := content, url, title } : Image).text := piece
  rw [run_renderImage]
  exact shown.image_html described page.options source

/-- The handler for headings renders a heading that is covered if its content is. -/
theorem renders_covered_heading {condition : Prop} {handle : Handler}
    (default : (pageHandlers page).get? "heading" = some handle) {content : Text}
    (piece : Covered condition content) (free : LeavesFree attributes "text") {level : Nat}
    (levelled : attributes.get? "level" = some (.int level)) (range : 1 ≤ level ∧ level ≤ 6) :
    Renders (Covered condition)
      (handle { positional := [.text content], named := attributes }) := by
  have bound : Parameters.bind { required := ["text", "level"], passes := true }
      { positional := [.text content], named := attributes } =
        .ok (("text".toList, .text content) :: attributes) := by
    refine Parameters.bind_text free (fun _ _ => .inl rfl) fun name member => ?_
    rw [List.mem_singleton.mp member, levelled]
    rfl
  have digit : argument (("text".toList, .text content) :: attributes) "level" = .int level := by
    rw [argument_cons_of_ne (by decide), argument, levelled]
    rfl
  have known : 'h' :: (Value.int level).toText ∈ standard.tags := by
    have checked : ∀ n < 7, 1 ≤ n → 'h' :: (Value.int (n : Nat)).toText ∈ standard.tags := by decide
    exact checked level (by omega) range.1
  cases default
  refine renders_handler bound (renders_ok_bind (a := content) rfl ?_)
  rw [digit]
  exact @renders_heading _ page { content, level := (Value.int level).toText } known piece

/-- The handler for list items renders an item that is covered if its content is. -/
theorem renders_covered_item (page : Page) {condition : Prop} {handle : Handler}
    (default : (pageHandlers page).get? "list_item" = some handle) {content : Text}
    (piece : Covered condition content) (free : LeavesFree attributes "text") :
    Renders (Covered condition)
      (handle { positional := [.text content], named := attributes }) := by
  have bound : Parameters.bind { required := ["text"], passes := true }
      { positional := [.text content], named := attributes } =
        .ok (("text".toList, .text content) :: attributes) :=
    Parameters.bind_text free (fun _ _ => .inl rfl) (by simp)
  cases default
  exact renders_handler bound
    (renders_ok_bind (a := content) rfl (renders_pure piece.renderListItem))

/-- The rule for lists renders a list that is covered if its content is, unless it starts at a
number of its own. -/
theorem renders_covered_list {condition : Prop} {handle : Handler}
    (ruled : basicRules.get? "list" = some handle) {content : Text}
    (piece : Covered condition content) (free : LeavesFree attributes "text")
    (ordered : (attributes.get? "ordered").isSome = true) :
    Renders (Covered (condition ∧ ¬((argument attributes "ordered").isTruthy = true ∧
        argument attributes "start" ≠ .null)))
      (handle { positional := [.text content], named := attributes }) := by
  have bound : Parameters.bind { required := ["text", "ordered"], passes := true }
      { positional := [.text content], named := attributes } =
        .ok (("text".toList, .text content) :: attributes) :=
    Parameters.bind_text free (fun _ _ => .inl rfl) fun name member => by
      rw [List.mem_singleton.mp member, ordered]
  cases ruled
  refine renders_handler bound (renders_ok_bind (a := content) rfl (renders_pure ?_))
  rw [argument_cons_of_ne (by decide), argument_cons_of_ne (by decide)]
  exact piece.renderList _ _

/-- The rule for the cells of tables renders a cell that is covered if its content is. -/
theorem renders_covered_cell (page : Page) {condition : Prop} {handle : Handler}
    (ruled : page.githubRenderer.handlerFor? "table_cell" = some handle) {content : Text}
    (piece : Covered condition content)
    (named : ∀ entry ∈ attributes, entry.1 = "align".toList ∨ entry.1 = "head".toList)
    (quoted : '"' ∉ (argument attributes "align").toText) :
    Renders (Covered condition)
      (handle { positional := [.text content], named := attributes }) := by
  have free : LeavesFree attributes "text" := fun entry member => by
    rcases named entry member with same | same
    · rw [same]
      exact ⟨by decide, by decide⟩
    · rw [same]
      exact ⟨by decide, by decide⟩
  have bound : Parameters.bind { required := ["text"], optional := ["align", "head"] }
      { positional := [.text content], named := attributes } =
        .ok (("text".toList, .text content) :: attributes) :=
    Parameters.bind_text free (fun entry member => .inr (by
      rcases named entry member with same | same
      · simp [same]
      · simp [same])) (by simp)
  cases ruled
  refine renders_handler bound (renders_ok_bind (a := content) rfl (renders_pure ?_))
  rw [argument_cons_of_ne (by decide), argument_cons_of_ne (by decide)]
  exact piece.tableCellHtml quoted _

/-- The handler for code blocks renders a covered block. -/
theorem renders_covered_codeBlock {handle : Handler}
    (default : (pageHandlers page).get? "block_code" = some handle) (content : Text)
    (free : LeavesFree attributes "code")
    (info : (argument attributes "info").isTruthy = true →
      ∃ t, argument attributes "info" = .text t) :
    Renders standard.Covers (handle { positional := [.text content], named := attributes }) := by
  have bound : Parameters.bind { required := ["code"], optional := ["info"], passes := true }
      { positional := [.text content], named := attributes } =
        .ok (("code".toList, .text content) :: attributes) :=
    Parameters.bind_text free (fun _ _ => .inl rfl) (by simp)
  obtain ⟨words, worded⟩ := exists_optionalText_cons (show "info".toList ≠ "code".toList by decide)
    info (.text content)
  cases default
  exact renders_handler bound (renders_ok_bind (a := content) rfl (renders_ok_bind worded
    (renders_logged fun records => covers_renderCodeBlock page content words records)))

/-- An address that stands as text shows no start: its text is all that is inside. -/
theorem noneShowsStart_of_address {r : NodeRenderer} {options : RenderOptions}
    (inside : ∀ child ∈ children, child.IsMarkdown page)
    (address : r.takesAddress (.parent "link" attributes children) = true) :
    Node.NoneShowsStart options children := by
  have auto : (Node.parent "link" attributes children).isAutolink = true := by
    simp only [NodeRenderer.takesAddress, Bool.and_eq_true] at address
    exact address.2
  unfold Node.isAutolink Node.autolinkText? at auto
  split at auto
  · cases auto
  split at auto
  · rename_i child only
    split at auto
    · rename_i kind
      change children = [child] at only
      subst only
      intro other member
      rw [List.mem_singleton.mp member]
      cases inside child (List.mem_singleton.mpr rfl) with
      | text | code | codeBlock => exact Node.not_showsStart_raw _ _
      | empty => exact Node.not_showsStart_leaf _
      | plain known =>
        rw [Node.kind] at kind
        exact absurd (kind ▸ known) (by decide)
      | link | image | heading | list | item | cell =>
        rw [Node.kind] at kind
        exact absurd kind (by decide)
    · cases auto
  · cases auto

/-- A node of Markdown is rendered, and covered unless it shows a list with a start of its own. -/
theorem renders_covered {node : Node} (markdown : node.IsMarkdown page) :
    Renders (Covered (¬node.ShowsStart page.options)) (renderNode page.githubRenderer node) := by
  induction markdown with
  | text content =>
    refine renders_raw rfl (renders_contentHandler ?_)
    exact (covers_of_unmarked (unmarked_renormalize _)).coversIf (Node.not_showsStart_raw _ _)
  | code content =>
    refine renders_raw rfl (renders_contentHandler ?_)
    have code : standard.Covers (escapeMarkup content) :=
      covers_of_unmarked (unmarked_escapeMarkup content)
    exact (code.coversIf (Node.not_showsStart_raw _ _)).elementHtml (by decide)
  | codeBlock content free info =>
    refine renders_raw rfl ((renders_covered_codeBlock rfl content free info).imp ?_)
    exact fun html covered => covered.coversIf (Node.not_showsStart_raw _ _)
  | empty known =>
    have constant {kind html : Text}
        (handled : page.githubRenderer.handlerFor? kind = some (constantHandler html))
        (covered : standard.Covers html) :
        Renders (Covered (¬(Node.leaf kind []).ShowsStart page.options))
          (renderNode page.githubRenderer (.leaf kind [])) :=
      renders_leaf handled (renders_constantHandler
        (covered.coversIf (Node.not_showsStart_leaf kind)))
    simp only [emptyKinds, List.mem_cons, List.not_mem_nil, or_false] at known
    rcases known with rfl | rfl | rfl | rfl
    · exact constant rfl (by decide)
    · exact constant rfl (by decide)
    · exact constant rfl (by decide)
    · exact constant rfl (by decide)
  | plain known inside ih => exact renders_covered_plain known (renders_covered_nodes ih)
  | @link attributes attributed unmarked children inside ih =>
    rw [Node.not_showsStart_parent (by decide)]
    have handled : page.githubRenderer.handlerFor? "link" = (pageHandlers page).get? "link" := rfl
    cases address : page.githubRenderer.takesAddress (.parent "link" attributes children) with
    | true =>
      have none : Node.NoneShowsStart page.options children :=
        noneShowsStart_of_address inside address
      refine renders_address handled address (renders_covered_link rfl ?_
        attributed.insert_autolink fun _ => none)
      exact (covers_of_unmarked (unmarked_renormalize _)).coversIf none
    | false =>
      refine renders_parent handled address (renders_covered_nodes ih) fun content piece =>
        renders_covered_link rfl piece attributed fun truthy => ?_
      rw [argument, unmarked] at truthy
      cases truthy
  | image attributed leads quoted inside ih =>
    rw [Node.not_showsStart_image]
    have content := (renders_covered_nodes ih).and quoted.description
    exact renders_filled rfl (by decide) content fun content piece =>
      renders_covered_image rfl piece.1 piece.2 attributed leads quoted.source
  | heading free levelled range inside ih =>
    rw [Node.not_showsStart_parent (by decide)]
    exact renders_filled rfl (by decide) (renders_covered_nodes ih) fun content piece =>
      renders_covered_heading rfl piece free levelled range
  | list free ordered inside ih =>
    rw [Node.not_showsStart_list]
    exact renders_filled rfl (by decide) (renders_covered_nodes ih) fun content piece =>
      renders_covered_list rfl piece free ordered
  | item free inside ih =>
    rw [Node.not_showsStart_parent (by decide)]
    exact renders_filled rfl (by decide) (renders_covered_nodes ih) fun content piece =>
      renders_covered_item page rfl piece free
  | cell named quoted inside ih =>
    rw [Node.not_showsStart_parent (by decide)]
    exact renders_filled rfl (by decide) (renders_covered_nodes ih) fun content piece =>
      renders_covered_cell page rfl piece named quoted

end Rendered

/-- **The standard policy covers what is rendered exactly if no ordered list starts at a number of
its own**: nodes of Markdown are always rendered, and of the names of elements and attributes in
their HTML the policy leaves out none but the start of such a list. -/
theorem standard_covers_rendered_iff (page : Page) {nodes : List Node}
    (markdown : ∀ node ∈ nodes, node.IsMarkdown page) (s : RenderState) :
    ∃ html s', (renderNodes page.githubRenderer nodes).runOn s = (.ok html, s') ∧
      (standard.Covers html ↔ ∀ node ∈ nodes, ¬node.ShowsStart page.options) := by
  obtain ⟨html, s', ran, covered⟩ :=
    renders_covered_nodes (fun node member => renders_covered (markdown node member)) s
  exact ⟨html, s', ran, covered.covers_iff⟩

/-- A bulleted list whose item is an image with quotes in its target, title and description. -/
theorem standard_covers_rendered_of_image :
    let image : Node := .parent "image"
      [("url", .text (Url.target "/a?b=\"<")), ("title", .text "\"c>")] [.raw "text" [] "\"d<e"]
    let list : Node := .parent "list" [("depth", .int 0), ("ordered", .bool false)]
      [.parent "list_item" [] [.parent "block_text" [] [image]]]
    let page : Page := { options := { figcaption := true } }
    ∃ html s', (renderNodes page.githubRenderer [list]).runOn {} = (.ok html, s') ∧
      standard.Covers html := by
  intro image list page
  have attributed : LinkAttributes
      [("url", .text (Url.target "/a?b=\"<")), ("title", .text "\"c>")] := {
    url := ⟨_, rfl, Url.isTarget_target _⟩
    title := fun _ => ⟨_, rfl⟩
    free := by decide }
  have quoted : QuotesImage page (Url.target "/a?b=\"<") [.raw "text" [] "\"d<e"] :=
    quotesImage_of_isInline (by decide +kernel) (List.forall_mem_singleton.mpr (.text [] _))
  have pictured : image.IsMarkdown page :=
    .image attributed rfl quoted (List.forall_mem_singleton.mpr (.text _))
  have item : (Node.parent "list_item" [] [.parent "block_text" [] [image]]).IsMarkdown page :=
    .item (by decide) (List.forall_mem_singleton.mpr
      (.plain (by decide) (List.forall_mem_singleton.mpr pictured)))
  have listed : list.IsMarkdown page :=
    .list (by decide) rfl (List.forall_mem_singleton.mpr item)
  have bulleted : ¬list.ShowsStart page.options := by
    refine Node.not_showsStart_list.mpr ⟨List.forall_mem_singleton.mpr ?_, fun own => own.2 rfl⟩
    refine (Node.not_showsStart_parent (by decide)).mpr (List.forall_mem_singleton.mpr ?_)
    refine (Node.not_showsStart_parent (by decide)).mpr (List.forall_mem_singleton.mpr ?_)
    exact Node.not_showsStart_image.mpr fun _ =>
      List.forall_mem_singleton.mpr (Node.not_showsStart_raw _ _)
  obtain ⟨html, s', ran, covered⟩ :=
    standard_covers_rendered_iff page (List.forall_mem_singleton.mpr listed) {}
  exact ⟨html, s', ran, covered.mpr (List.forall_mem_singleton.mpr bulleted)⟩

/-- The number at which a list starts is written, and the standard policy leaves it out. -/
theorem standard_leaves_out_start :
    let text : Node := .parent "block_text" [] [.raw "text" [] "a"]
    let list : Node := .parent "list" [("ordered", .bool true), ("start", .int 3)]
      [.parent "list_item" [] [text]]
    let html : Text := "<ol start=\"3\">\n<li>a</li>\n</ol>\n"
    ((renderNodes (Page.githubRenderer {}) [list]).runOn {}).1 = .ok html ∧
      ¬standard.Covers html := by
  intro text list html
  have ofText : Renders (· = "a".toList) (renderNode (Page.githubRenderer {}) text) :=
    renders_filled rfl (by decide)
      (renders_single (renders_raw rfl (renders_contentHandler (by decide +kernel))))
      fun content same => renders_contentHandler same
  have ofItem : Renders (· = "<li>a</li>\n".toList)
      (renderNode (Page.githubRenderer {}) (.parent "list_item" [] [text])) :=
    renders_filled rfl (by decide) (renders_single ofText)
      fun content same s => ⟨_, s, rfl, by
        rw [same]
        decide +kernel⟩
  have ofList : Renders (· = html) (renderNode (Page.githubRenderer {}) list) :=
    renders_filled rfl (by decide) (renders_single ofItem)
      fun content same s => ⟨_, s, rfl, by
        rw [same]
        decide +kernel⟩
  obtain ⟨_, s', ran, rfl⟩ := renders_single ofList {}
  exact ⟨congrArg Prod.fst ran, by decide⟩

end MarkdownSite
