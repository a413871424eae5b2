import MarkdownSite.Proofs.Node.Link
import MarkdownSite.Proofs.Node.Markup
import MarkdownSite.Proofs.Node.Run
import MarkdownSite.Proofs.Value.Entries
import MarkdownSite.Url.Percent

/-!
# Running text

The nodes of running text other than raw HTML and images. Whatever their text, their titles and the
options, they are rendered as well-formed markup.
-/

namespace MarkdownSite

open Text

/-- A link target as documents keep it: all characters that may not stand in a URL are escaped. -/
def Url.IsTarget (url : Text) : Prop := ∀ c ∈ url, standsForItself targetCharacters c = true

/-- A link target stays in its quotes. -/
theorem Url.IsTarget.unmarked {url : Text} (target : Url.IsTarget url) : Unmarked url :=
  fun c member => isMark_eq_false (by decide) (target c member)

/-- Every target that a document names is one. -/
theorem Url.isTarget_target (t : Text) : Url.IsTarget (Url.target t) :=
  fun _ member => standsForItself_of_mem_percentEncode (by decide) member

/-- The kinds of nodes that put an element around their content. -/
def styledKinds : List Text :=
  ["emphasis", "strong", "strikethrough", "mark", "insert", "superscript", "subscript"]

/-- A node of running text, neither raw HTML nor an image. -/
inductive Node.IsInline : Node → Prop
  /-- Text as it stands in the document. -/
  | text (attributes : Entries) (content : Text) : IsInline (.raw "text" attributes content)
  /-- Code in running text. -/
  | code (attributes : Entries) (content : Text) : IsInline (.raw "codespan" attributes content)
  /-- The end of a line that stays. -/
  | lineBreak (attributes : Entries) : IsInline (.leaf "linebreak" attributes)
  /-- The end of a line that counts as a blank. -/
  | softBreak (attributes : Entries) : IsInline (.leaf "softbreak" attributes)
  /-- The mark that refers to a footnote. -/
  | footnote {attributes : Entries} {number : Int}
      (numbered : attributes.get? "index" = some (.int number)) (content : Text) :
      IsInline (.raw "footnote_ref" attributes content)
  /-- Content in an element. -/
  | styled {kind : Text} (known : kind ∈ styledKinds) (attributes : Entries)
      {children : List Node} (inside : ∀ child ∈ children, IsInline child) :
      IsInline (.parent kind attributes children)
  /-- A link. -/
  | link {attributes : Entries} {url : Text} (leads : attributes.get? "url" = some (.text url))
      (target : Url.IsTarget url) {children : List Node}
      (inside : ∀ child ∈ children, IsInline child) :
      IsInline (.parent "link" attributes children)

/-! ## Links -/

/-- The attributes that are added to the tag of a link out of the site. -/
def Link.added (link : Link) (page : Page) : List (Text × Text) :=
  let external := page.options.externalLink
  let target := link.target page.options
  if external.isActive && !target.isEmpty
      && Url.isExternal target page.site.url external.exclude then
    attributeIf external.enable "target" "_blank"
      ++ attributeIf (external.enable || external.nofollow) "rel"
        (if external.nofollow then "noopener external nofollow noreferrer" else "noopener")
  else []

/-- What is added to the tag of a link out of the site are attributes. -/
theorem externalHtml_eq (link : Link) (page : Page) :
    link.externalHtml page = attributesHtml (link.added page) := by
  unfold Link.externalHtml Link.added
  dsimp only
  split
  · cases page.options.externalLink.enable <;> cases page.options.externalLink.nofollow <;> rfl
  · rfl

/-- What is added to a link are a target and a relation, whose values stay in their quotes. -/
theorem Link.mem_added {link : Link} {page : Page} {pair : Text × Text}
    (member : pair ∈ link.added page) :
    (pair.1 = "target" ∨ pair.1 = "rel") ∧ Unmarked pair.2 := by
  unfold added at member
  dsimp only at member
  split at member
  · rcases List.mem_append.mp member with target | rel
    · rw [eq_of_mem_attributeIf target]
      exact ⟨.inl rfl, by decide⟩
    · rw [eq_of_mem_attributeIf rel]
      refine ⟨.inr rfl, ?_⟩
      dsimp only
      split <;> decide
  · cases member

/-- What is added to the tag of a link stays in its place. -/
theorem Link.areUnmarked_added (link : Link) (page : Page) : AreUnmarked (link.added page) := by
  intro pair member
  obtain ⟨named, unmarked⟩ := mem_added member
  refine ⟨?_, unmarked⟩
  rcases named with name | name
  · rw [name]
    decide
  · rw [name]
    decide

/-- The attributes of a link, each with its value as it is written. -/
def Link.attributes (link : Link) (page : Page) : List (Text × Text) :=
  [("href".toList, link.href page.options)]
    ++ attributeIf (!link.title.isEmpty) "title" (escapeAttribute link.title) ++ link.added page

/-- The attributes of a link with the given `href`. -/
def Link.attributesTo (link : Link) (page : Page) (href : Text) : List (Text × Text) :=
  [("href".toList, href)]
    ++ attributeIf (!link.title.isEmpty) "title" (escapeAttribute link.title) ++ link.added page

/-- The element of a link with a given `href` is its text between its tags. -/
theorem Link.element_eq_attributesTo (link : Link) (page : Page) (href text : Text) :
    link.element page href text =
      startTag "a" (link.attributesTo page href) ++ text ++ endTag "a" := by
  unfold element attributesTo startTag
  rw [titleHtml_eq, externalHtml_eq, attributesHtml_append, attributesHtml_append,
    attributesHtml_singleton]
  simp [endTag]

/-- The element of a link is its text between its tags. -/
theorem Link.element_eq (link : Link) (page : Page) (text : Text) :
    link.element page (link.href page.options) text =
      startTag "a" (link.attributes page) ++ text ++ endTag "a" :=
  link.element_eq_attributesTo page (link.href page.options) text

/-- The attributes of a link stay in their places if its `href` stays in its quotes. -/
theorem Link.areUnmarked_attributesTo (link : Link) (page : Page) {href : Text}
    (unmarked : Unmarked href) : AreUnmarked (link.attributesTo page href) := by
  have plainTitle := areUnmarked_attributeIf (show Unmarked "title" by decide)
    (unmarked_escapeAttribute link.title) (!link.title.isEmpty)
  exact ((areUnmarked_singleton (by decide) unmarked).append plainTitle).append
    (link.areUnmarked_added page)

/-- The `href` of a link stays in its quotes. -/
theorem Link.unmarked_href {link : Link} (target : Url.IsTarget link.url)
    (options : RenderOptions) : Unmarked (link.href options) := by
  unfold Link.href
  cases link.hiddenAddress? options with
  | some address => exact Url.unmarked_mangle _
  | none =>
    dsimp only
    rcases Url.encode?_cases (link.target options) with ⟨encoded, -, -, -, whole⟩ | ⟨e, -, raw⟩
    · rw [whole]
      exact unmarked_escapeAttribute encoded
    · rw [raw, Link.target]
      split
      · exact unmarked_nil
      · exact target.unmarked

/-- A link whose text is markup is markup. -/
theorem markup_renderLink {page : Page} {link : Link} (content : Markup link.text)
    (target : Url.IsTarget link.url) (records : List LogRecord) :
    Markup ((renderLink page link).run records).1 := by
  rw [run_renderLink]
  split
  · exact content
  have shown : Markup (link.shown page.options) := by
    unfold Link.shown
    cases link.hiddenAddress? page.options with
    | some address => exact .of_unmarked (Url.unmarked_mangle address)
    | none => exact content
  rw [Link.element_eq]
  exact .single (by decide)
    (link.areUnmarked_attributesTo page (Link.unmarked_href target page.options)) shown

/-! ## Rendering -/

/-- A kind that the handlers and the plain rules leave out has its rule from an extension. -/
theorem nodeRules_of_handlerFor? {page : Page} {extensions : List Markdown.Extension} {kind : Text}
    {handle : Handler} (unhandled : (pageHandlers page).get? kind = none)
    (added : basicRules.get? kind = none)
    (handled : (page.renderer [] extensions).handlerFor? kind = some handle) :
    ∃ extension : Markdown.Extension, (kind, handle) ∈ extension.nodeRules := by
  have ruled : (basicRules ++ extensions.flatMap Markdown.Extension.nodeRules).lookup kind =
      some handle := by
    have own : (page.renderer [] extensions).handlers.get? kind = none := unhandled
    rw [NodeRenderer.handlerFor?, own, Option.none_or] at handled
    exact handled
  have basic : basicRules.lookup kind = none := added
  rw [List.lookup_append, basic, Option.none_or] at ruled
  obtain ⟨extension, -, listed⟩ := List.mem_flatMap.mp (Handlers.mem_of_get? ruled)
  exact ⟨extension, listed⟩

/-- A styled node is rendered as an element of running text. -/
theorem handlerFor?_styled {page : Page} {extensions : List Markdown.Extension} {kind : Text}
    (known : kind ∈ styledKinds) {handle : Handler}
    (handled : (page.renderer [] extensions).handlerFor? kind = some handle) :
    ∃ name ∈ inlineElements, handle = contentHandler (elementHtml name) := by
  have added (extension : Markdown.Extension)
      (listed : (kind, handle) ∈ extension.nodeRules) :
      ∃ name ∈ inlineElements, handle = contentHandler (elementHtml name) := by
    cases extension with
    | strikethrough => exact ⟨"del", by decide, (Prod.mk.inj (List.mem_singleton.mp listed)).2⟩
    | mark => exact ⟨"mark", by decide, (Prod.mk.inj (List.mem_singleton.mp listed)).2⟩
    | insertion => exact ⟨"ins", by decide, (Prod.mk.inj (List.mem_singleton.mp listed)).2⟩
    | superscript => exact ⟨"sup", by decide, (Prod.mk.inj (List.mem_singleton.mp listed)).2⟩
    | subscript => exact ⟨"sub", by decide, (Prod.mk.inj (List.mem_singleton.mp listed)).2⟩
    | url => cases listed
    | table =>
      simp only [Markdown.Extension.nodeRules, List.mem_cons, Prod.mk.injEq, List.not_mem_nil,
        or_false] at listed
      rcases listed with ⟨rfl, -⟩ | ⟨rfl, -⟩ | ⟨rfl, -⟩ | ⟨rfl, -⟩ | ⟨rfl, -⟩ <;>
        exact absurd known (by decide)
    | footnotes =>
      simp only [Markdown.Extension.nodeRules, List.mem_cons, Prod.mk.injEq, List.not_mem_nil,
        or_false] at listed
      rcases listed with ⟨rfl, -⟩ | ⟨rfl, -⟩ | ⟨rfl, -⟩ <;> exact absurd known (by decide)
  simp only [styledKinds, List.mem_cons, List.not_mem_nil, or_false] at known
  rcases known with rfl | rfl | rfl | rfl | rfl | rfl | rfl
  · cases handled
    exact ⟨"em", by decide, rfl⟩
  · cases handled
    exact ⟨"strong", by decide, rfl⟩
  · obtain ⟨extension, listed⟩ := nodeRules_of_handlerFor? rfl rfl handled
    exact added extension listed
  · obtain ⟨extension, listed⟩ := nodeRules_of_handlerFor? rfl rfl handled
    exact added extension listed
  · obtain ⟨extension, listed⟩ := nodeRules_of_handlerFor? rfl rfl handled
    exact added extension listed
  · obtain ⟨extension, listed⟩ := nodeRules_of_handlerFor? rfl rfl handled
    exact added extension listed
  · obtain ⟨extension, listed⟩ := nodeRules_of_handlerFor? rfl rfl handled
    exact added extension listed

/-- Text with its references decoded and written anew stays in its quotes. -/
theorem unmarked_renormalize (t : Text) : Unmarked (renormalize t) := unmarked_escapeMarkup _

/-- An element without attributes around markup is markup. -/
theorem markup_elementHtml {name content : Text} (known : name ∈ inlineElements)
    (inside : Markup content) : Markup (elementHtml name content) := by
  rw [elementHtml_eq]
  exact .single known areUnmarked_nil inside

/-- The digits of a number stay in their quotes. -/
theorem unmarked_ofInt (number : Int) : Unmarked (ofInt number) := by
  have digits (n : Nat) : Unmarked (ofNat n) := fun c member =>
    isMark_eq_false (p := Char.isDigit) (by decide) (isDigit_of_mem_ofNat member)
  cases number with
  | ofNat n => exact digits n
  | negSucc n =>
    intro c member
    rcases List.mem_cons.mp member with rfl | digit
    · decide
    · exact digits (n + 1) c digit

/-- The mark that refers to a footnote is markup. -/
theorem markup_footnoteMarkHtml {number : Text} (unmarked : Unmarked number) :
    Markup (footnoteMarkHtml number) := by
  have element : footnoteMarkHtml number =
      startTag "sup" [("class", "footnote-ref"), ("id", "fnref-" ++ number)]
        ++ (startTag "a" [("href", "#fn-" ++ number)] ++ number ++ endTag "a") ++ endTag "sup" := by
    unfold footnoteMarkHtml startTag endTag attributesHtml
    simp
  have plainId : AreUnmarked [("id".toList, "fnref-" ++ number)] :=
    areUnmarked_singleton (by decide) (unmarked_append.mpr ⟨by decide, unmarked⟩)
  have plainHref : AreUnmarked [("href".toList, "#fn-" ++ number)] :=
    areUnmarked_singleton (by decide) (unmarked_append.mpr ⟨by decide, unmarked⟩)
  have plainClass : AreUnmarked [("class".toList, "footnote-ref")] := by decide
  rw [element]
  exact .single (by decide) (plainClass.append plainId)
    (.single (by decide) plainHref (.of_unmarked unmarked))

/-- The rule for references to footnotes makes markup of a number. -/
theorem markup_footnoteRule {extension : Markdown.Extension} {handle : Handler}
    (listed : ("footnote_ref".toList, handle) ∈ extension.nodeRules) {content : Text}
    {named : Entries} {number : Int} (numbered : named.get? "index" = some (.int number))
    {s s' : RenderState} {html : Text}
    (ran : (handle { positional := [.text content], named }).runOn s = (.ok html, s')) :
    Markup html := by
  cases extension with
  | footnotes =>
    simp only [Markdown.Extension.nodeRules, List.mem_cons, Prod.mk.injEq, List.not_mem_nil,
      or_false] at listed
    rcases listed with ⟨-, rfl⟩ | ⟨other, -⟩ | ⟨other, -⟩
    · have found : argument (("key".toList, .text content) :: named) "index" = .int number := by
        rw [argument_cons_of_ne (by decide), argument, numbered]
        rfl
      have made : footnoteMarkHtml
          (argument (("key".toList, .text content) :: named) "index").toText = html :=
        Except.ok.inj (Prod.mk.inj (runOn_handler_ok ran)).1
      rw [← made, found]
      exact markup_footnoteMarkHtml (unmarked_ofInt number)
    · exact absurd other (by decide)
    · exact absurd other (by decide)
  | strikethrough | mark | insertion | superscript | subscript | url | table =>
    simp [Markdown.Extension.nodeRules] at listed

/-- The handler for links makes markup of markup. -/
theorem markup_linkHandler (page : Page) {handle : Handler}
    (default : (pageHandlers page).get? "link" = some handle) {content url : Text}
    (inside : Markup content) {named : Entries} (leads : named.get? "url" = some (.text url))
    (target : Url.IsTarget url) {s s' : RenderState} {html : Text}
    (ran : (handle { positional := [.text content], named }).runOn s = (.ok html, s')) :
    Markup html := by
  cases default
  obtain ⟨text, shown, ran⟩ := RenderM.runOn_except_bind_ok (runOn_handler_ok ran)
  obtain ⟨destination, found, ran⟩ := RenderM.runOn_except_bind_ok ran
  obtain ⟨title, -, ran⟩ := RenderM.runOn_except_bind_ok ran
  cases shown
  have same : textArgument (("text".toList, .text content) :: named) "url" = .ok url := by
    rw [textArgument, argument_cons_of_ne (by decide), argument, leads]
    rfl
  cases same.symm.trans found
  cases ran
  exact markup_renderLink inside target s.records

/-- **A node of running text is rendered as well-formed markup.** -/
theorem markup_renderNode {page : Page} {extensions : List Markdown.Extension} {node : Node}
    (running : node.IsInline) {s s' : RenderState} {html : Text}
    (ran : (renderNode (page.renderer [] extensions) node).runOn s = (.ok html, s')) :
    Markup html := by
  induction running generalizing s s' html with
  | text attributes content =>
    obtain ⟨handle, handled, called⟩ := runOn_raw_ok ran
    cases handled
    rw [runOn_contentHandler_ok called]
    exact .of_unmarked (unmarked_renormalize _)
  | code attributes content =>
    obtain ⟨handle, handled, called⟩ := runOn_raw_ok ran
    cases handled
    rw [runOn_contentHandler_ok called]
    exact markup_elementHtml (by decide) (.of_unmarked (unmarked_escapeMarkup _))
  | lineBreak attributes =>
    obtain ⟨handle, handled, called⟩ := runOn_leaf_ok ran
    cases handled
    rw [runOn_constantHandler_ok called]
    exact .lineBreak .nil
  | softBreak attributes =>
    obtain ⟨handle, handled, called⟩ := runOn_leaf_ok ran
    cases handled
    rw [runOn_constantHandler_ok called]
    exact .text (by decide) .nil
  | footnote numbered content =>
    obtain ⟨handle, handled, called⟩ := runOn_raw_ok ran
    obtain ⟨extension, listed⟩ := nodeRules_of_handlerFor? rfl rfl handled
    exact markup_footnoteRule listed numbered called
  | @styled kind known attributes children inside ih =>
    obtain ⟨handle, handled, called⟩ := runOn_parent_ok ran
    obtain ⟨name, element, rfl⟩ := handlerFor?_styled known handled
    rcases called with ⟨address, -⟩ | ⟨content, middle, inner, called⟩
    · have linked : kind = "link" := kind_of_takesAddress address
      rw [linked] at known
      exact absurd known (by decide)
    · rw [runOn_contentHandler_ok called]
      exact markup_elementHtml element
        (runOn_renderNodes_ok .nil .append (fun child member _ _ _ => ih child member) inner)
  | @link attributes url leads target children inside ih =>
    obtain ⟨handle, handled, called⟩ := runOn_parent_ok ran
    cases handled
    rcases called with ⟨address, called⟩ | ⟨content, middle, inner, called⟩
    · refine markup_linkHandler page rfl (.of_unmarked (unmarked_renormalize _)) ?_ target called
      rw [← leads]
      exact Entries.get?_insert_of_ne (by decide) _ _
    · have content := runOn_renderNodes_ok .nil .append (fun child member _ _ _ => ih child member)
        inner
      exact markup_linkHandler page rfl content leads target called

end MarkdownSite
