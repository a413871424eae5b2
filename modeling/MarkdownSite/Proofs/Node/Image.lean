import MarkdownSite.Proofs.Log.Record
import MarkdownSite.Proofs.Node.Inline

/-!
# Images and their attributes

The description and the title of an image stay in their quotes, whatever the document says. Its
source does so if it can be encoded; a source that cannot be encoded is written as it is, with its
percent escapes decoded.
-/

namespace MarkdownSite

open Text

namespace Image

/-- Where an image is; what has been reported so far plays no part. -/
def source (image : Image) (page : Page) : Text := ((imageTarget page image.url).run []).1

/-- The attributes of an image whose source is written as given, each with its value as it is
written. -/
def attributes (image : Image) (options : RenderOptions) (written : Text) : List (Text × Text) :=
  [("src".toList, written)]
    ++ attributeIf (!(imageDescription image.text).isEmpty) "alt" (imageDescription image.text)
    ++ attributeIf (!image.title.isEmpty) "title" (escapeAttribute image.title)
    ++ attributeIf options.lazyload "loading" "lazy"

/-- The element of an image is a tag with its attributes. -/
theorem element_eq (image : Image) (options : RenderOptions) (written : Text) :
    image.element options written = startTag "img" (image.attributes options written) := by
  have described : (if (imageDescription image.text).isEmpty then []
      else attributeHtml "alt" (imageDescription image.text)) =
      attributesHtml (attributeIf (!(imageDescription image.text).isEmpty) "alt"
        (imageDescription image.text)) := by
    rw [attributesHtml_attributeIf]
    cases (imageDescription image.text).isEmpty with
    | true => rfl
    | false => rfl
  unfold element attributes startTag
  simp only [described, titleHtml_eq, attributesHtml_append, attributesHtml_singleton,
    attributesHtml_attributeIf options.lazyload]
  generalize attributesHtml (attributeIf (!(imageDescription image.text).isEmpty) "alt" _) = alt
  generalize attributesHtml (attributeIf (!image.title.isEmpty) "title" _) = title
  generalize (if options.lazyload then attributeHtml "loading" "lazy" else []) = loading
  simp

/-- The HTML of an image whose source is written as given: its tag, in a figure if options ask for
one. -/
def html (image : Image) (options : RenderOptions) (written : Text) : Text :=
  let tag := startTag "img" (image.attributes options written)
  if options.figcaption && !image.text.isEmpty then
    "<figure>" ++ tag ++ "<figcaption aria-hidden=\"true\">" ++ image.text
      ++ "</figcaption></figure>"
  else tag

end Image

/-- The published asset does not depend on what has been reported. -/
theorem steady_publishedAsset (page : Page) (href : Text) : Steady (publishedAsset page href) := by
  unfold publishedAsset
  split
  · rename_i dir resolver _ _
    split
    · refine Steady.bind ?_ fun _ => steady_pure _
      unfold resolveAsset
      dsimp only
      cases resolver.findAsset (Path.join dir (Path.forward href)) with
      | error message => exact (steady_report _ _ _).bind fun _ => steady_pure _
      | ok found =>
        cases found with
        | none => exact (steady_report _ _ _).bind fun _ => steady_pure _
        | some path => exact steady_pure _
    · exact steady_pure _
  · exact steady_pure _

/-- Where an image is does not depend on what has been reported. -/
theorem steady_imageTarget (page : Page) (url : Text) : Steady (imageTarget page url) := by
  unfold imageTarget
  dsimp only
  split
  · exact (steady_publishedAsset page _).bind fun _ => steady_pure _
  · exact steady_pure _

/-- An image is its tag, in a figure if options ask for one. -/
theorem run_renderImage (page : Page) (image : Image) (records : List LogRecord) :
    ((renderImage page image).run records).1 =
      image.html page.options (Url.encode (image.source page)) := by
  have written : Url.encode (image.source page) =
      ((encodeUrl ((imageTarget page image.url).run records).1).run
        ((imageTarget page image.url).run records).2).1 := by
    rw [run_encodeUrl, steady_imageTarget page image.url records]
    rfl
  rw [Image.html, ← Image.element_eq, written]
  unfold renderImage
  dsimp only
  split <;> rfl

/-- The handler for images reads the image off its call and renders it. -/
theorem runOn_imageHandler_ok (page : Page) {handle : Handler}
    (default : (pageHandlers page).get? "image" = some handle) {content : Text} {named : Entries}
    {s s' : RenderState} {html : Text}
    (ran : (handle { positional := [.text content], named }).runOn s = (.ok html, s')) :
    ∃ image : Image, image.text = content ∧ named.get? "url" = some (.text image.url) ∧
      html = image.html page.options (Url.encode (image.source page)) := by
  cases default
  obtain ⟨text, shown, ran⟩ := RenderM.runOn_except_bind_ok (runOn_handler_ok ran)
  obtain ⟨url, found, ran⟩ := RenderM.runOn_except_bind_ok ran
  obtain ⟨title, -, ran⟩ := RenderM.runOn_except_bind_ok ran
  cases shown
  refine ⟨{ text := content, url, title }, rfl, ?_, ?_⟩
  · change textArgument (("text".toList, .text content) :: named) "url" = .ok url at found
    rw [textArgument, argument_cons_of_ne (by decide), argument] at found
    cases given : named.get? "url" with
    | none =>
      rw [given] at found
      cases found
    | some v =>
      rw [given] at found
      cases v <;> cases found
      rfl
  · rw [← run_renderImage page _ s.records]
    exact (Except.ok.inj (Prod.mk.inj ran).1).symm

/-- Description and title of an image stay in their quotes, and so does the source exactly if it is
written so. -/
theorem Image.unmarked_attributes {image : Image} (described : Markup image.text)
    (options : RenderOptions) (written : Text) :
    ∀ pair ∈ image.attributes options written,
      Unmarked pair.2 ↔ (pair.1 = "src" → Unmarked written) := by
  have other {name value : Text} (unmarked : Unmarked value) (differs : name ≠ "src") :
      Unmarked value ↔ (name = "src" → Unmarked written) :=
    ⟨fun _ same => absurd same differs, fun _ => unmarked⟩
  intro pair member
  rcases List.mem_append.mp member with first | loading
  · rcases List.mem_append.mp first with first | title
    · rcases List.mem_append.mp first with source | alt
      · rw [List.mem_singleton.mp source]
        exact ⟨fun unmarked _ => unmarked, fun written => written rfl⟩
      · rw [eq_of_mem_attributeIf alt]
        exact other described.unmarked_imageDescription (show "alt".toList ≠ "src".toList by decide)
    · rw [eq_of_mem_attributeIf title]
      exact other (unmarked_escapeAttribute image.title)
        (show "title".toList ≠ "src".toList by decide)
  · rw [eq_of_mem_attributeIf loading]
    exact other (by decide) (by decide)

/-- A source is written so that it stays in its quotes exactly if it can be encoded or has nothing
that ends them. -/
theorem Url.unmarked_encode_iff (url : Text) :
    Unmarked (encode url) ↔ (∃ written, encode? url = .ok written) ∨ Unmarked url := by
  rcases encode?_cases url with ⟨encoded, -, -, done, whole⟩ | ⟨e, refused, raw⟩
  · rw [whole, done]
    exact iff_of_true (unmarked_escapeAttribute encoded) (.inl ⟨_, rfl⟩)
  · rw [raw, refused]
    exact (or_iff_right nofun).symm

/-- **The attributes of an image stay in their quotes**, whatever stands in its description, its
title and its target, except that the source ends them where it cannot be encoded and has a
character that does. -/
theorem image_attributes_unmarked (page : Page) (extensions : List Markdown.Extension)
    (attributes : Entries) {children : List Node} (running : ∀ child ∈ children, child.IsInline)
    {s s' : RenderState} {html : Text}
    (ran : (renderNode (page.renderer [] extensions) (.parent "image" attributes children)).runOn s
      = (.ok html, s')) :
    ∃ image : Image, attributes.get? "url" = some (.text image.url) ∧
      ((renderNodes (page.renderer [] extensions) children).runOn s).1 = .ok image.text ∧
      html = image.html page.options (Url.encode (image.source page)) ∧
      ∀ pair ∈ image.attributes page.options (Url.encode (image.source page)),
        Unmarked pair.2 ↔ (pair.1 = "src" →
          (∃ written, Url.encode? (image.source page) = .ok written) ∨
            Unmarked (image.source page)) := by
  obtain ⟨handle, handled, called⟩ := runOn_parent_ok ran
  cases handled
  rcases called with ⟨address, -⟩ | ⟨content, middle, inner, called⟩
  · exact absurd (kind_of_takesAddress address) (by simp only [Node.kind]; decide)
  · obtain ⟨image, rfl, url, same⟩ := runOn_imageHandler_ok page rfl called
    have described : Markup image.text := runOn_renderNodes_ok .nil .append
      (fun child member _ _ _ => markup_renderNode (running child member)) inner
    refine ⟨image, url, by rw [inner], same, fun pair member => ?_⟩
    rw [← Url.unmarked_encode_iff]
    exact Image.unmarked_attributes described _ _ pair member

/-- The quotes around a source that cannot be encoded end inside it. -/
theorem renderImage_marked_source :
    ((renderImage {} { text := "a", url := "//%5B%22%3E" }).run []).1 =
      "<img src=\"//[\">\" alt=\"a\">" := by
  decide +kernel

/-- A text as the description of an image whose source cannot be encoded. -/
theorem image_attributes_unmarked_of_brackets :
    ∃ image : Image,
      ∀ pair ∈ image.attributes {} (Url.encode (image.source {})),
        Unmarked pair.2 ↔ (pair.1 = "src" →
          (∃ written, Url.encode? (image.source {}) = .ok written) ∨
            Unmarked (image.source {})) := by
  have child : (renderNode (Page.renderer {} [] []) (.text "a")).runOn {} =
      (.ok (renderText {} "a"), {}) := by
    rw [renderNode_eq]
    change (renderContent _ _ _).runOn {} = _
    rw [Node.text, renderContent]
    rfl
  have children : (renderNodes (Page.renderer {} [] []) [.text "a"]).runOn {} =
      (.ok (renderText {} "a" ++ []), {}) := by
    rw [renderNodes, RenderM.runOn_bind, child, renderNodes]
    rfl
  have ran : ∃ html s', (renderNode (Page.renderer {} [] []) (.parent "image"
      [("url", .text "//%5B%22%3E")] [.text "a"])).runOn {} = (.ok html, s') := by
    rw [renderNode_eq]
    change ∃ html s', (renderContent _ _ _).runOn {} = (.ok html, s')
    rw [renderContent, RenderM.runOn_bind, children]
    exact ⟨_, _, rfl⟩
  obtain ⟨html, s', ran⟩ := ran
  have running : ∀ child ∈ [Node.text "a"], child.IsInline := by
    intro child member
    rw [List.mem_singleton.mp member]
    exact .text [] "a"
  obtain ⟨image, -, -, -, unmarked⟩ := image_attributes_unmarked {} [] _ running ran
  exact ⟨image, unmarked⟩

end MarkdownSite
