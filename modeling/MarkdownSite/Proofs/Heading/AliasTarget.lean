import MarkdownSite.Proofs.Heading.AliasElement
import MarkdownSite.Proofs.Heading.Document
import MarkdownSite.Proofs.Node.Renders
import MarkdownSite.Proofs.Text.Trimmed
import MarkdownSite.Proofs.Url.Fragment

/-!
# Headings that take their id from a link

A heading whose only child is a link into the document takes its id from the place that the link
names, and the link leads to the id. What the link shows and the title that it has play no part.
-/

namespace MarkdownSite

open Text

/-! ## Phrases -/

/-- Text with emphasis and code, to any depth. -/
inductive Node.IsPhrase : Node → Prop
  /-- Text as it stands in the document. -/
  | text (content : Text) : IsPhrase (.raw "text" [] content)
  /-- Code in running text. -/
  | code (content : Text) : IsPhrase (.raw "codespan" [] content)
  /-- Emphasis. -/
  | emphasis {children : List Node} (inside : ∀ child ∈ children, IsPhrase child) :
      IsPhrase (.parent "emphasis" [] children)
  /-- Strong emphasis. -/
  | strong {children : List Node} (inside : ∀ child ∈ children, IsPhrase child) :
      IsPhrase (.parent "strong" [] children)

/-- A rendering gives HTML that ends no link, and does nothing else. -/
def RenderM.GivesLinkText (x : RenderM Text) : Prop :=
  ∃ html, x = pure html ∧ Heading.SkipsLinkEnd html

/-- Nodes one after another give HTML that ends no link if each does. -/
theorem givesLinkText_nodes {r : NodeRenderer} {nodes : List Node}
    (each : ∀ node ∈ nodes, (renderNode r node).GivesLinkText) :
    (renderNodes r nodes).GivesLinkText := by
  induction nodes with
  | nil =>
    rw [renderNodes]
    exact ⟨[], rfl, Heading.skipsLinkEnd_nil⟩
  | cons node rest ih =>
    obtain ⟨first, gaveFirst, skipsFirst⟩ := each node List.mem_cons_self
    obtain ⟨second, gaveSecond, skipsSecond⟩ :=
      ih fun other member => each other (List.mem_cons_of_mem node member)
    refine ⟨first ++ second, ?_, skipsFirst.append skipsSecond⟩
    rw [renderNodes, gaveFirst, gaveSecond]
    rfl

/-- Text that stays in its place ends no link. -/
theorem skipsLinkEnd_of_unmarked {t : Text} (unmarked : Unmarked t) : Heading.SkipsLinkEnd t := by
  refine Heading.skipsLinkEnd_of_not_mem fun member => ?_
  have mark := unmarked '<' member
  cases mark

section Content

variable {r : NodeRenderer} {kind : Text} {body : Text → Text}
  (handled : r.handlerFor? kind = some (contentHandler body))

include handled

/-- A handler of the content alone makes its HTML of the text of a node. -/
theorem renderNode_raw_content (content : Text) :
    renderNode r (.raw kind [] content) = pure (body content) := by
  rw [renderNode_eq]
  simp only [Node.kind, handled, takesAddress_of_children r (.raw kind [] content) rfl,
    Bool.false_eq_true, ↓reduceIte, renderContent]
  rfl

/-- A handler of the content alone makes its HTML of that of the nodes inside. -/
theorem renderNode_parent_content (other : kind ≠ "link") {children : List Node} {html : Text}
    (inside : renderNodes r children = pure html) :
    renderNode r (.parent kind [] children) = pure (body html) := by
  rw [renderNode_eq]
  simp only [Node.kind, handled, @takesAddress_of_kind r (.parent kind [] children) other,
    Bool.false_eq_true, ↓reduceIte, renderContent, inside]
  rfl

end Content

section Page

variable (page : Page) (extensions : List Markdown.Extension)

/-- A phrase gives HTML that ends no link. -/
theorem givesLinkText_phrase {node : Node} (phrase : node.IsPhrase) :
    (renderNode (page.renderer [] extensions) node).GivesLinkText := by
  induction phrase with
  | text content =>
    exact ⟨renderText page content, renderNode_raw_content rfl content,
      skipsLinkEnd_of_unmarked (unmarked_renormalize _)⟩
  | code content =>
    have handled : (page.renderer [] extensions).handlerFor? "codespan" =
        some (contentHandler fun t => elementHtml "code" (escapeMarkup t)) := rfl
    exact ⟨elementHtml "code" (escapeMarkup content), renderNode_raw_content handled content,
      Heading.skipsLinkEnd_elementHtml (by decide) (by decide)
        (skipsLinkEnd_of_unmarked (unmarked_escapeMarkup content))⟩
  | emphasis inside ih =>
    obtain ⟨html, gave, skips⟩ := givesLinkText_nodes ih
    exact ⟨elementHtml "em" html, renderNode_parent_content rfl (by decide) gave,
      Heading.skipsLinkEnd_elementHtml (by decide) (by decide) skips⟩
  | strong inside ih =>
    obtain ⟨html, gave, skips⟩ := givesLinkText_nodes ih
    exact ⟨elementHtml "strong" html, renderNode_parent_content rfl (by decide) gave,
      Heading.skipsLinkEnd_elementHtml (by decide) (by decide) skips⟩

/-- A link around phrases is rendered as a link whose text ends no link. -/
theorem exists_linkText {attributes : Entries} {url title : Text}
    (leads : attributes.get? "url" = some (.text url))
    (titled : optionalText attributes "title" = .ok title)
    (free : ∀ entry ∈ attributes, entry.1 ≠ "text".toList ∧ entry.1 ≠ selfParameter)
    {children : List Node} (phrases : ∀ child ∈ children, child.IsPhrase) :
    ∃ text isAutolink, Heading.SkipsLinkEnd text ∧ ∀ s,
      (renderNode (page.renderer [] extensions) (.parent "link" attributes children)).runOn s =
        (liftM (renderLink page { text, url, title, isAutolink }) : RenderM Text).runOn s := by
  cases address : (page.renderer [] extensions).takesAddress (.parent "link" attributes children)
    with
  | true =>
    exact ⟨_, true, skipsLinkEnd_of_unmarked (unmarked_renormalize _),
      runOn_address page extensions address leads titled free⟩
  | false =>
    obtain ⟨handle, default, handled⟩ := @Page.exists_handler page extensions "link" rfl
    obtain ⟨html, gave, skips⟩ := givesLinkText_nodes fun child member =>
      givesLinkText_phrase page extensions (phrases child member)
    refine ⟨html, (argument attributes "autolink").isTruthy, skips, fun s => ?_⟩
    rw [renderNode_eq]
    simp only [Node.kind, handled, address, Bool.false_eq_true, ↓reduceIte, renderContent,
      gave, pure_bind]
    exact runOn_linkCall page default html leads titled free s

end Page

/-! ## Links into the document -/

section Place

variable {x : Text} (place : IsPlace x)

include place

/-- A link to a place leads there, for it has no scheme. -/
theorem IsPlace.target_eq {link : Link} (leads : link.url = '#' :: Url.target x)
    (options : RenderOptions) : link.target options = '#' :: Url.target x := by
  have decoded : Url.percentDecode ('#' :: Url.target x) = '#' :: x := by
    rw [Url.percentDecode_cons (by decide) (by decide),
      Url.percentDecode_target place.escapes place.references]
  have safe : Url.isUnsafe ('#' :: x) = false := rfl
  simp [Link.target, leads, decoded, safe]

/-- A link to a place is an element with its text, if autolinks are on. -/
theorem IsPlace.renderLink_eq {page : Page} (on : page.options.autolink = true) {link : Link}
    (leads : link.url = '#' :: Url.target x) (records : List LogRecord) :
    ((renderLink page link).run records).1 =
      link.element page (Url.encode ('#' :: Url.target x)) link.text := by
  have shown : link.hiddenAddress? page.options = none := by
    have other : dropPrefix? mailScheme ('#' :: Url.target x) = none := rfl
    rw [Link.hiddenAddress?, place.target_eq leads, other, Option.map_none, ite_self]
  rw [run_renderLink, on]
  simp only [Bool.not_true, Bool.and_false, Bool.false_eq_true, ↓reduceIte, Link.href, Link.shown,
    shown, place.target_eq leads]

/-- What an attribute says of a place has target characters only, and no blanks. -/
theorem IsPlace.isTargetChar_written :
    ∀ c ∈ escapeAttribute (Url.percentEncode Url.safeCharacters x),
      Heading.isTargetChar c = true ∧ isBlank c = false := by
  intro c member
  have unmarked := unmarked_escapeAttribute _ c member
  have unquoted := Heading.isQuote_escapeAttribute _ c member
  rw [Url.escapeAttribute_percentEncode place.references] at member
  have itself := Url.standsForItself_of_mem_percentEncode (by decide) member
  have narrow := Url.toNat_lt_of_standsForItself (by decide) itself
  have visible : Url.standsForItself Url.safeCharacters c = true → isBlank c = false :=
    of_toNat_lt narrow (by decide)
  simp only [isMark, Bool.or_eq_false_iff, beq_eq_false_iff_ne] at unmarked
  exact ⟨by simp [Heading.isTargetChar, unquoted, unmarked], visible itself⟩

/-- What an attribute says of a place that has a name is not empty. -/
theorem IsPlace.written_ne_nil (present : x ≠ []) :
    escapeAttribute (Url.percentEncode Url.safeCharacters x) ≠ [] := by
  rw [Url.escapeAttribute_percentEncode place.references]
  intro nothing
  have none := Url.percentEncode_eq_nil_iff.mp nothing
  have decoded := Url.decodeEntities_withoutApostrophes place.references
  rw [none] at decoded
  exact present decoded.symm

/-- **The heading that is a link to a place asks for the slug of the place**, and shows the link with
the id as its target, if nothing in the text ends a link. -/
theorem IsPlace.heading_eq (present : x ≠ []) {options : RenderOptions}
    (aliased : options.anchorAlias = true) (link : Link) (page : Page) {text : Text}
    (skips : Heading.SkipsLinkEnd text) (level : Text) :
    let source : Heading.Source :=
      { content := link.element page (Url.encode ('#' :: Url.target x)) text, level }
    source.slug options = slug options.modifyAnchors x ∧
      ∀ id, Heading.contentFor (source.link? options) source.content id =
        link.element page ('#' :: id) text := by
  intro source
  have found := Heading.aliasLink?_element (place.written_ne_nil present)
    place.isTargetChar_written link page skips
  have content : source.content = link.element page
      ('#' :: escapeAttribute (Url.percentEncode Url.safeCharacters x)) text := by
    rw [← Url.encode_fragment place present]
  have linked : source.link? options = Heading.aliasLink? source.content := if_pos aliased
  rw [content, found] at linked
  constructor
  · rw [Heading.Source.slug, linked, headingSlug, Heading.idSource, place.plainText_written,
      slug_trim]
  · intro id
    rw [linked, Heading.contentFor]
    unfold Link.element attributeHtml
    simp only [List.append_assoc, List.cons_append]
    rfl

end Place

/-! ## Headings -/

/-- The call of the handler for headings asks for the heading that the node describes. -/
theorem Heading.Source.ofCall_text (content : Text) {named : Entries}
    (levelled : (named.get? "level").isSome = true)
    (free : ∀ entry ∈ named, entry.1 ≠ "text".toList ∧ entry.1 ≠ selfParameter) :
    Heading.Source.ofCall { positional := [.text content], named } =
      .ok { content, level := (argument named "level").toText } := by
  have bound : Parameters.bind { required := ["text", "level"], passes := true }
      { positional := [.text content], named } = .ok (("text".toList, .text content) :: named) :=
    Parameters.bind_text free (fun _ _ => .inl rfl) fun name member => by
      rw [List.mem_singleton.mp member, levelled]
  rw [← argument_cons_of_ne (show "level".toList ≠ "text".toList by decide) (.text content) named]
  unfold Heading.Source.ofCall
  rw [bound]
  rfl

/-- A heading around one node is rendered by what the node gives. -/
theorem runOn_heading (page : Page) (extensions : List Markdown.Extension) {named : Entries}
    (levelled : (named.get? "level").isSome = true)
    (free : ∀ entry ∈ named, entry.1 ≠ "text".toList ∧ entry.1 ≠ selfParameter) {node : Node}
    {s s' : RenderState} {html : Text}
    (ran : (renderNode (page.renderer [] extensions) node).runOn s = (.ok html, s')) :
    (renderNode (page.renderer [] extensions) (.parent "heading" named [node])).runOn s =
      (renderHeading page { content := html, level := (argument named "level").toText }).runOn
        s' := by
  obtain ⟨handle, default, handled⟩ := @Page.exists_handler page extensions "heading" rfl
  rw [renderNode_eq]
  simp only [Node.kind, handled, Bool.false_eq_true, ↓reduceIte, renderContent,
    @takesAddress_of_kind _ (.parent "heading" named [node]) (show "heading".toList ≠ _ by decide)]
  rw [RenderM.runOn_bind, runOn_renderNodes_single ran]
  dsimp only
  rw [runOn_headingHandler page default, Heading.Source.ofCall_text html levelled free]

/-- **A heading that is a link into the document has the id that the table gives out for the place
of the link**, whatever the link shows, and the link in it is the link alone, with its title and its
text, but leads to the id. -/
theorem heading_takes_id_of_place (page : Page) (extensions : List Markdown.Extension)
    (ids : page.options.headerIds = true) (aliased : page.options.anchorAlias = true)
    (autolink : page.options.autolink = true) {x : Text} (place : IsPlace x)
    (named : slug page.options.modifyAnchors x ≠ []) {attributes : Entries}
    (leads : attributes.get? "url" = some (.text ('#' :: Url.target x))) {title : Text}
    (titled : optionalText attributes "title" = .ok title)
    (free : ∀ entry ∈ attributes, entry.1 ≠ "text".toList ∧ entry.1 ≠ selfParameter)
    {children : List Node} (phrases : ∀ child ∈ children, child.IsPhrase) {heading : Entries}
    (levelled : (heading.get? "level").isSome = true)
    (freeHeading : ∀ entry ∈ heading, entry.1 ≠ "text".toList ∧ entry.1 ≠ selfParameter) :
    ∃ link : Link, link.url = '#' :: Url.target x ∧ link.title = title ∧ ∀ s,
      let node : Node := .parent "link" attributes children
      let claimed := s.headingIds.claim (slug page.options.modifyAnchors x)
      (∃ records, (renderNode (page.renderer [] extensions) node).runOn s =
        (.ok (link.element page (Url.encode link.url) link.text), { s with records })) ∧
      ∃ records,
        (renderNode (page.renderer [] extensions) (.parent "heading" heading [node])).runOn s =
          (.ok (Heading.withId (argument heading "level").toText
            (link.element page ('#' :: claimed.1) link.text) claimed.1),
            { headingIds := claimed.2, records }) := by
  obtain ⟨text, isAutolink, skips, runs⟩ :=
    exists_linkText page extensions leads titled free phrases
  let link : Link := { text, url := '#' :: Url.target x, title, isAutolink }
  refine ⟨link, rfl, rfl, fun s => ?_⟩
  have present : x ≠ [] := by
    rintro rfl
    exact named (by cases page.options.modifyAnchors <;> rfl)
  have ran : (renderNode (page.renderer [] extensions) (.parent "link" attributes children)).runOn
      s = (.ok (link.element page (Url.encode link.url) text),
        { s with records := ((renderLink page link).run s.records).2 }) := by
    rw [runs, ← @IsPlace.renderLink_eq _ place page autolink link rfl s.records]
    rfl
  obtain ⟨slugged, shown⟩ := place.heading_eq present aliased link page skips
    (argument heading "level").toText
  have something := named
  rw [← slugged] at something
  obtain ⟨records, rendered⟩ := Heading.runOn_renderHeading_named ids something
    { s with records := ((renderLink page link).run s.records).2 }
  refine ⟨⟨_, ran⟩, records, ?_⟩
  rw [runOn_heading page extensions levelled freeHeading ran, rendered, slugged, shown]

/-- A heading is a link to a place whose name has an apostrophe and a blank at its end; the slug is
the id of another heading already. -/
theorem heading_takes_id_of_place_with_apostrophe :
    let place : Text := "It's here "
    let page : Page := { options := { anchorAlias := true } }
    let node : Node := .parent "link"
      [("url", .text ('#' :: Url.target place)), ("title", .text "\"there\">")]
      [.parent "emphasis" [] [.raw "text" [] "</a>"], .raw "codespan" [] "<a"]
    IsPlace place ∧ slug .none place ≠ [] ∧
    ∃ link : Link, link.title = "\"there\">" ∧ ∃ records,
      (renderNode (page.renderer [] []) (.parent "heading" [("level", .int 2)] [node])).runOn
          { headingIds := { counters := [("It-s-here", 1)] } } =
        (.ok (Heading.withId "2" (link.element page "#It-s-here-1" link.text) "It-s-here-1"),
          { headingIds := { counters := [("It-s-here", 2), ("It-s-here-1", 1)] }, records }) := by
  intro place page node
  have named : IsPlace place := ⟨by decide, by decide, by decide⟩
  have slugged : slug .none place = "It-s-here" := by decide +kernel
  have something : slug .none place ≠ [] := by
    rw [slugged]
    decide
  have phrases : ∀ child ∈ node.children, child.IsPhrase := by
    intro child member
    rcases List.mem_cons.mp member with rfl | second
    · refine .emphasis fun inner inside => ?_
      rw [List.mem_singleton.mp inside]
      exact .text "</a>"
    · rw [List.mem_singleton.mp second]
      exact .code "<a"
  obtain ⟨link, -, titled, runs⟩ := @heading_takes_id_of_place page [] rfl rfl rfl place named
    something node.attributes rfl "\"there\">" rfl (by decide) node.children phrases
    [("level", .int 2)] rfl (by decide)
  obtain ⟨-, records, ran⟩ := runs { headingIds := { counters := [("It-s-here", 1)] } }
  refine ⟨named, something, link, titled, records, ran.trans ?_⟩
  rw [show page.options.modifyAnchors = .none from rfl, slugged]
  rfl

end MarkdownSite
