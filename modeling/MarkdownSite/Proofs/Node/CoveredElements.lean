import MarkdownSite.Proofs.Code.Plain
import MarkdownSite.Proofs.Heading.Written
import MarkdownSite.Proofs.Node.Image
import MarkdownSite.Proofs.Node.Running
import MarkdownSite.Proofs.Sanitizer.Coverage

/-!
# Elements that the standard policy covers

The elements that stand for links, images, headings, list items, code blocks and the cells of tables
are covered if their content is, with all the attributes that options and documents give them. Of
lists this holds if they do not start at a number of their own.
-/

namespace MarkdownSite

open Text Html Sanitizer Sanitizer.Policy

variable {condition : Prop}

/-! ## Text and code -/

namespace Sanitizer.Policy

/-- Escaped code is covered. -/
theorem covers_escapeContent (code : Text) : standard.Covers (escapeContent code) :=
  covers_of_plain (not_mem_escapeContent code).1

/-- Text and spans are covered. -/
theorem covers_of_isSpanned {t : Text} (spanned : Code.IsSpanned t) : standard.Covers t := by
  induction spanned with
  | nil => rfl
  | text opens _ _ ih => exact (covers_of_plain opens).append ih
  | @span className inside rest unmarked _ _ within after =>
    have quoted : '"' ∉ className := fun member => by
      simpa [Code.isUnmarked] using List.all_eq_true.mp unmarked _ member
    have fits : standard.Fits "span" [("class".toList, className)] :=
      fits_singleton (by decide) quoted
    have started := covers_startTag (by decide) (by decide) fits
    have tag : startTag "span" [("class".toList, className)] =
        "<span class=\"" ++ className ++ "\">" := by
      simp [startTag, attributesHtml_singleton, attributeHtml]
    rw [tag] at started
    exact ((started.append within).append (by decide)).append after

/-- The body of a code block is covered. -/
theorem covers_highlight (highlighter : Code.Highlighter) (code : Text) (language : Option Text)
    (enabled : Bool) (records : List LogRecord) :
    standard.Covers ((Code.highlight highlighter code language enabled).run records).1 := by
  unfold Code.highlight
  dsimp only
  split
  · exact covers_escapeContent _
  · exact covers_escapeContent _
  split
  · exact covers_escapeContent _
  split
  · rename_i write known
    exact covers_of_isSpanned (highlighter.writes_spans known _)
  · exact covers_escapeContent _

/-- A code block is its body between the tags of an element for code in one for lines as they are;
its language is the class of the former. -/
theorem run_renderCodeBlock (page : Page) (code info : Text) (records : List LogRecord) :
    ((renderCodeBlock page code info).run records).1 = "<pre>" ++
      startTag "code" (attributeIf (Code.languageOf info).isSome "class"
        (renormalize (page.options.langPrefix ++ (Code.languageOf info).getD []))) ++
      ((Code.highlight page.highlighter code (Code.languageOf info)
        page.options.highlight).run records).1 ++ "</code></pre>" := by
  rw [run_renderCodeBlock_eq, startTag, attributesHtml_attributeIf]
  cases Code.languageOf info with
  | none => simp
  | some name => simp

/-- A code block is covered. -/
theorem covers_renderCodeBlock (page : Page) (code info : Text) (records : List LogRecord) :
    standard.Covers ((renderCodeBlock page code info).run records).1 := by
  have fits : standard.Fits "code" (attributeIf (Code.languageOf info).isSome "class"
      (renormalize (page.options.langPrefix ++ (Code.languageOf info).getD []))) :=
    fits_attributeIf (fits_singleton (by decide) (unmarked_renormalize _).quote_not_mem)
  have opened : standard.Covers "<pre>" := by decide
  have started := opened.append (covers_startTag (by decide) (by decide) fits)
  rw [run_renderCodeBlock]
  exact (started.append (covers_highlight _ code _ _ records)).append (by decide)

/-! ## Links and images -/

/-- The attributes of a link are allowed. -/
theorem fits_link {link : Link} (target : Url.IsTarget link.url) (page : Page) :
    standard.Fits "a" (link.attributes page) := by
  have allowed :
      ∀ name ∈ attributesOf "a", IsName name ∧ standard.allowsAttribute "a" name = true := by
    decide
  intro pair member
  obtain ⟨listed, unmarked⟩ := Link.fits_attributes target page pair member
  exact ⟨(allowed _ listed).1, (allowed _ listed).2, unmarked.quote_not_mem⟩

/-- A link is covered if its text is; that of an address that stands as text may be replaced. -/
theorem CoversIf.renderLink {page : Page} {link : Link}
    (content : standard.CoversIf condition link.text) (target : Url.IsTarget link.url)
    (address : link.isAutolink = true → condition) (records : List LogRecord) :
    standard.CoversIf condition ((renderLink page link).run records).1 := by
  rw [run_renderLink]
  split
  · exact content
  have shown : standard.CoversIf condition (link.shown page.options) := by
    unfold Link.shown
    cases hidden : link.hiddenAddress? page.options with
    | none => exact content
    | some mail =>
      have auto : link.isAutolink = true := by
        unfold Link.hiddenAddress? at hidden
        split at hidden
        · rename_i both
          exact (Bool.and_eq_true_iff.mp both).1
        · cases hidden
      exact (covers_of_unmarked (Url.unmarked_mangle mail)).coversIf (address auto)
  rw [Link.element_eq]
  exact shown.element (by decide) (by decide) (fits_link target page)

/-- The attributes of an image are allowed, if its source and its description stay in their
quotes. -/
theorem fits_image {image : Image} (described : '"' ∉ imageDescription image.text)
    (options : RenderOptions) {written : Text} (quoted : '"' ∉ written) :
    standard.Fits "img" (image.attributes options written) := by
  have source : standard.Fits "img" [("src".toList, written)] :=
    fits_singleton (by decide) quoted
  have alt : standard.Fits "img" (attributeIf (!(imageDescription image.text).isEmpty) "alt"
      (imageDescription image.text)) :=
    fits_attributeIf (fits_singleton (by decide) described)
  have title : standard.Fits "img" (attributeIf (!image.title.isEmpty) "title"
      (escapeAttribute image.title)) :=
    fits_attributeIf (fits_singleton (by decide) (unmarked_escapeAttribute _).quote_not_mem)
  have loading : standard.Fits "img" (attributeIf options.lazyload "loading" "lazy") :=
    fits_attributeIf (fits_singleton (by decide) (by decide))
  exact ((source.append alt).append title).append loading

/-- An image is covered if the content that its caption shows is, where it has one. -/
theorem CoversIf.image_html {image : Image} (content : standard.CoversIf condition image.text)
    (described : '"' ∉ imageDescription image.text) (options : RenderOptions) {written : Text}
    (quoted : '"' ∉ written) :
    standard.CoversIf (options.figcaption = true → condition) (image.html options written) := by
  have tag := covers_startTag (show "img".toList ∈ standard.tags by decide) (by decide)
    (fits_image described options quoted)
  unfold Image.html
  dsimp only
  split
  · rename_i captioned
    have on : options.figcaption = true := (Bool.and_eq_true_iff.mp captioned).1
    have opened : standard.Covers ("<figure>" ++ startTag "img" (image.attributes options written)
        ++ "<figcaption aria-hidden=\"true\">") :=
      (Covers.append (by decide) tag).append (by decide)
    exact (content.between opened (by decide)).congr ⟨fun holds _ => holds, fun holds => holds on⟩
  · rename_i bare
    refine tag.coversIf fun on => ?_
    have empty : image.text = [] := by simpa [on] using bare
    rw [empty] at content
    exact content.covers_iff.mp rfl

/-! ## Headings -/

/-- Every element may have an id. -/
theorem allowsAttribute_id (tag : Text) : standard.allowsAttribute tag "id" = true := by
  unfold allowsAttribute
  dsimp only
  rw [Bool.or_eq_true]
  exact .inr (by decide)

/-- A heading with an id is covered if its content is. -/
theorem CoversIf.withId {level content id : Text} (known : 'h' :: level ∈ standard.tags)
    (piece : standard.CoversIf condition content) (quoted : '"' ∉ id) :
    standard.CoversIf condition (Heading.withId level content id) := by
  have written : Heading.withId level content id =
      startTag ('h' :: level) [("id", id)] ++ (startTag "a" [("href", '#' :: id),
        ("class", "headerlink"), ("title", attributeText content)] ++ "</a>" ++ content) ++
        endTag ('h' :: level) := by
    simp [Heading.withId, startTag, endTag, attributesHtml]
  have fits : standard.Fits ('h' :: level) [("id", id)] :=
    fits_singleton ⟨by decide, allowsAttribute_id _⟩ quoted
  have href : standard.Fits "a" [("href".toList, '#' :: id)] :=
    fits_singleton (by decide) (by simpa using quoted)
  have style : standard.Fits "a" [("class".toList, "headerlink".toList)] :=
    fits_singleton (by decide) (by decide)
  have title : standard.Fits "a" [("title".toList, attributeText content)] :=
    fits_singleton (by decide) (unmarked_escapeAttribute _).quote_not_mem
  have anchor : standard.Covers (startTag "a" [("href", '#' :: id),
      ("class", "headerlink"), ("title", attributeText content)] ++ "</a>") :=
    (covers_startTag (by decide) (by decide) ((href.append style).append title)).append (by decide)
  rw [written]
  exact (anchor.coversIf_append_iff.mpr piece).element known (isTagName_standard _ known) fits

/-- An id in the place of the target of a link leaves the content as covered as it is. -/
theorem CoversIf.shows {content : Text} {link : Heading.AliasLink}
    (piece : standard.CoversIf condition content) (cut : link.CutsFrom content) {id : Text}
    (plain : '<' ∉ id) (quoted : '"' ∉ id) :
    standard.CoversIf condition (link.before ++ id ++ link.after) := by
  refine piece.of_read ?_
  obtain ⟨start, blank, quote, -, -, opened⟩ := cut.opened
  rw [cut.whole, List.append_assoc, List.append_assoc, read_append, read_append]
  cases place : standard.read .content link.before with
  | none => rfl
  | some position =>
    simp only [Option.bind_some]
    have text : TakesText position := by
      rw [opened, ← List.singleton_append (l := ['#']), ← List.append_assoc] at place
      exact takesText_of_last (by decide) (by decide) place
    have target : standard.read position link.target = some position :=
      read_text text (fun member => absurd (cut.target_chars _ member) (by decide))
        fun member => absurd (cut.target_chars _ member) (by decide)
    rw [read_append_of (read_text text plain quoted), read_append_of target]

/-- A heading is rendered, and covered if its content is. -/
theorem renders_heading {page : Page} {heading : Heading.Source}
    (known : 'h' :: heading.level ∈ standard.tags)
    (piece : standard.CoversIf condition heading.content) :
    Renders (standard.CoversIf condition) (renderHeading page heading) := by
  intro s
  cases on : page.options.headerIds with
  | false =>
    refine ⟨heading.plain, s, ?_, piece.elementHtml known⟩
    unfold renderHeading
    simp only [on, Bool.not_false, ↓reduceIte]
    rfl
  | true =>
    by_cases empty : heading.slug page.options = []
    · obtain ⟨records, ran⟩ := Heading.runOn_renderHeading_bare on empty s
      exact ⟨heading.plain, _, ran, piece.elementHtml known⟩
    · obtain ⟨records, ran⟩ := Heading.runOn_renderHeading_named on empty s
      have quoted := Heading.quote_not_mem_claim s.headingIds heading page.options
      have plain : '<' ∉ (s.headingIds.claim (heading.slug page.options)).1 :=
        Heading.not_mem_claim s.headingIds heading page.options
          (fun inside => inside.elim (by decide) (by decide +kernel)) rfl
      refine ⟨_, _, ran, CoversIf.withId known ?_ quoted⟩
      unfold Heading.contentFor
      cases linked : heading.link? page.options with
      | none => exact piece
      | some link =>
        unfold Heading.Source.link? at linked
        split at linked
        · exact piece.shows (Heading.cutsFrom_aliasLink? linked) plain quoted
        · cases linked

/-! ## Lists and tables -/

/-- What follows a box at the start of an item is as covered as the whole item. -/
theorem CoversIf.afterBox? {box content rest : Text} (piece : standard.CoversIf condition content)
    (plain : '<' ∉ box) (found : afterBox? box content = some rest) :
    standard.CoversIf condition rest := by
  have blanks (t : Text) : standard.Covers (t.takeWhile isBlank) :=
    covers_of_plain fun member =>
      absurd (List.all_eq_true.mp List.all_takeWhile '<' member) (by decide)
  obtain ⟨inside, dropped, rfl⟩ := Option.map_eq_some_iff.mp found
  rw [← List.takeWhile_append_dropWhile (p := isBlank) (l := content),
    dropPrefix?_eq_some_iff.mp dropped,
    ← List.takeWhile_append_dropWhile (p := isBlank) (l := inside)] at piece
  have behindBlanks := (blanks content).coversIf_append_iff.mp piece
  have behindBox := (covers_of_plain plain).coversIf_append_iff.mp behindBlanks
  exact (blanks inside).coversIf_append_iff.mp behindBox

/-- A list item is covered if its content is. -/
theorem CoversIf.renderListItem {content : Text} (piece : standard.CoversIf condition content) :
    standard.CoversIf condition (renderListItem content) := by
  have withBox {rest box : Text} (marked : standard.CoversIf condition rest)
      (opened : standard.Covers ("<li" ++ attributeHtml "style" "list-style: none" ++ ">" ++ box)) :
      standard.CoversIf condition ("<li" ++ attributeHtml "style" "list-style: none" ++ ">" ++
        box ++ ' ' :: rest ++ "</li>\n") := by
    have blank : standard.Covers [' '] := by decide
    exact (blank.coversIf_append_iff.mpr marked).between opened (by decide)
  unfold MarkdownSite.renderListItem
  dsimp only
  split
  · rename_i rest found
    exact withBox (piece.afterBox? (by decide) found) (by decide)
  · rename_i rest _ found
    exact withBox (piece.afterBox? (by decide) found) (by decide)
  · exact (piece.elementHtml (by decide)).followed (by decide)

/-- A list is covered if its content is, unless it is ordered and starts at a number of its own. -/
theorem CoversIf.renderList {content : Text} (piece : standard.CoversIf condition content)
    (ordered start : Value) :
    standard.CoversIf (condition ∧ ¬(ordered.isTruthy = true ∧ start ≠ .null))
      (renderList content ordered start) := by
  unfold MarkdownSite.renderList
  split
  · rename_i isOrdered
    dsimp only
    split
    · have open? : standard.Covers ("<ol" ++ ([] : Text) ++ ">\n") := by decide
      refine (piece.between open? (by decide)).congr ?_
      simp
    · rename_i other
      refine ⟨fun holds => absurd ⟨isOrdered, other⟩ holds.2, fun _ => ?_⟩
      have written : "<ol" ++ attributeHtml "start" start.toText ++ ">\n" ++ content ++ "</ol>\n" =
          "<ol start" ++ '=' :: ('"' :: (start.toText ++ "\">\n" ++ content ++ "</ol>\n")) := by
        simp [attributeHtml]
      have named : standard.read .content "<ol start" = some (.attributeName "ol" "start") := by
        decide
      have refused : standard.step (.attributeName "ol" "start") '=' = none := by decide
      rw [written, read_append_of named, read_cons, refused, Option.bind_none]
  · rename_i bulleted
    exact (piece.between (by decide) (by decide)).congr (by simp [bulleted])

/-- An element with its content on lines of its own is covered if its content is. -/
theorem CoversIf.linesHtml {content name : Text} (piece : standard.CoversIf condition content)
    (known : name ∈ standard.tags) : standard.CoversIf condition (linesHtml name content) := by
  have written : MarkdownSite.linesHtml name content =
      startTag name [] ++ ('\n' :: content) ++ endTag name ++ ['\n'] := by
    simp [MarkdownSite.linesHtml, startTag, endTag, attributesHtml]
  have line : standard.Covers ['\n'] := by decide
  have inside : standard.CoversIf condition ('\n' :: content) := line.coversIf_append_iff.mpr piece
  rw [written]
  have named : IsTagName name := isTagName_standard name known
  exact (inside.element known named (fits_nil standard name)).followed line

/-- A cell of a table is covered if its content is. -/
theorem CoversIf.tableCellHtml {content : Text} (piece : standard.CoversIf condition content)
    {alignment : Value} (quoted : '"' ∉ alignment.toText) (isHead : Value) :
    standard.CoversIf condition (tableCellHtml content alignment isHead) := by
  have style : '"' ∉ "text-align:" ++ alignment.toText := by simpa using quoted
  have written (name styles : Text) : "  <" ++ name ++ styles ++ ">" ++ content ++ "</" ++ name ++
      ">\n" = "  " ++ ('<' :: (name ++ styles) ++ ">" ++ content ++ ("</" ++ name ++ ">")) ++
        "\n" := by
    simp
  have cell {name : Text} (known : name ∈ standard.tags)
      (styled : standard.allowsAttribute name "style" = true) :
      standard.CoversIf condition ("  <" ++ name ++ (if alignment.isTruthy then
        attributeHtml "style" ("text-align:" ++ alignment.toText) else []) ++ ">" ++ content ++
          "</" ++ name ++ ">\n") := by
    have fits : standard.Fits name (attributeIf alignment.isTruthy "style"
        ("text-align:" ++ alignment.toText)) :=
      fits_attributeIf (fits_singleton ⟨by decide, styled⟩ style)
    have indent : standard.Covers "  " := by decide
    have whole := (piece.element known (isTagName_standard _ known) fits).between indent
      (show standard.Covers "\n" by decide)
    rw [startTag, endTag, attributesHtml_attributeIf] at whole
    rwa [written]
  unfold MarkdownSite.tableCellHtml
  dsimp only
  split
  · exact cell (by decide) (by decide)
  · exact cell (by decide) (by decide)

end Sanitizer.Policy

end MarkdownSite
