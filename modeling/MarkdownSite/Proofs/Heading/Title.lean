import MarkdownSite.Proofs.Heading.Written
import MarkdownSite.Proofs.Text.Escape
import MarkdownSite.Proofs.Text.Tags

/-!
# The title of a header link

The title of a header link is the text of the heading, decoded and then escaped for an attribute. It
stays in its quotes whatever the decoding brings up, and a browser reads it as the text of the
heading. That holds in a heading that is a link into the document too: the id that it is led to
stands inside of its tag.
-/

namespace MarkdownSite.Heading

open Text

/-- A text that ends no attribute value, in quotes of either kind, and starts and ends no tag. -/
def AttributeSafe (t : Text) : Prop := ∀ mark ∈ ['<', '>', '"', '\''], mark ∉ t

/-- A heading with an id, up to the title of its header link. -/
def titleStart (level id : Text) : Text :=
  "<h" ++ level ++ " id=\"" ++ id ++ "\"><a href=\"#" ++ id ++ "\" class=\"headerlink\" title=\""

/-- The title of the header link in a heading of the given level, up to the quote that ends it. -/
def titleIn? (level html : Text) : Option Text := do
  let id ← idIn? level html
  let rest ← dropPrefix? (titleStart level id) html
  return rest.takeWhile (· != '"')

/-! ## The text of a fragment in an attribute -/

/-- Escaped text is safe in an attribute. -/
theorem attributeSafe_escapeAttribute (t : Text) : AttributeSafe (escapeAttribute t) := by
  intro mark listed member
  have unmarked := unmarked_escapeAttribute t mark member
  simp only [List.mem_cons, List.not_mem_nil, or_false] at listed
  rcases listed with rfl | rfl | rfl | rfl
  · exact absurd unmarked (by decide)
  · exact absurd unmarked (by decide)
  · exact absurd unmarked (by decide)
  · exact apostrophe_not_mem_escapeAttribute t member

/-- The text of a fragment is safe in an attribute, and is read there as what it is. -/
theorem attributeText_spec (fragment : Text) : AttributeSafe (attributeText fragment) ∧
    decodeEntities (attributeText fragment) = decodeEntities (stripTags fragment) :=
  ⟨attributeSafe_escapeAttribute _, decodeEntities_escapeAttribute _⟩

/-! ## Reading the title -/

/-- A bare heading has no header link. -/
theorem titleIn?_plain (source : Source) : titleIn? source.level source.plain = none := by
  rw [titleIn?, idIn?_plain]
  rfl

/-- The title of a header link can be read from the heading if the id has no double quote. -/
theorem titleIn?_withId (level content : Text) {id : Text} (plain : '"' ∉ id) :
    titleIn? level (withId level content id) = some (attributeText content) := by
  have cut : withId level content id = titleStart level id ++ (attributeText content ++ '"' ::
      ("></a>" ++ content ++ "</h" ++ level ++ ">")) := by
    have start : titleStart level id = "<h" ++ level ++ " id=\"" ++ id ++ "\"><a href=\"#" ++ id
        ++ "\" class=\"headerlink\" title=\"" := rfl
    rw [withId_eq, start]
    simp
  have ends : '"' ∉ attributeText content := attributeSafe_escapeAttribute _ '"' (by decide)
  rw [titleIn?, idIn?_withId level content plain, Option.bind_eq_bind, Option.bind_some, cut,
    dropPrefix?_append, Option.bind_some, takeWhile_append_cons (by decide), takeWhile_bne ends]
  rfl

/-! ## Headings that are links -/

/-- The text of a heading stays the same when its link is led to an id. -/
theorem stripTags_contentFor (source : Source) (options : RenderOptions) {id : Text}
    (plain : '>' ∉ id) :
    stripTags (contentFor (source.link? options) source.content id) =
      stripTags source.content := by
  cases linked : source.link? options with
  | none => rfl
  | some link =>
    have found : aliasLink? source.content = some link := by
      unfold Source.link? at linked
      split at linked
      · exact linked
      · cases linked
    obtain ⟨attributes, inside, inner, content, unclosed, named, rfl⟩ :=
      exists_tag_of_aliasLink? found
    -- the id takes the place of the target between the same two parts of the tag
    have whole := (cutsFrom_hrefOf? named).whole
    rw [whole, List.mem_append, List.mem_append, not_or, not_or] at unclosed
    obtain ⟨⟨before, target⟩, after⟩ := unclosed
    have removed {middle : Text} (ends : '>' ∉ middle) :
        stripTags ("<a" ++ (inner.before ++ middle ++ inner.after) ++ '>' :: inside) =
          stripTags inside := by
      have tag : '>' ∉ 'a' :: (inner.before ++ middle ++ inner.after) := by
        simp [before, ends, after]
      exact stripTags_tag tag inside
    have shown := removed plain
    rw [content, whole, removed target, ← shown]
    simp [contentFor]

/-! ## Headings as they are rendered -/

/-- **The title of every header link is safe in its attribute and is read as the text of the
heading**, as is the text of any fragment. A heading has a header link, and a title to read, exactly
if ids are on and something is left for one. -/
theorem title_shows_content :
    (∀ fragment, AttributeSafe (attributeText fragment) ∧
      decodeEntities (attributeText fragment) = decodeEntities (stripTags fragment)) ∧
    ∀ (page : Page) (source : Source) (s : RenderState),
      ∃ html, ((renderHeading page source).runOn s).1 = .ok html ∧
        if page.options.headerIds = true ∧ source.slug page.options ≠ [] then
          ∃ title, titleIn? source.level html = some title ∧ AttributeSafe title ∧
            decodeEntities title = decodeEntities (stripTags source.content)
        else html = source.plain ∧ titleIn? source.level html = none := by
  refine ⟨attributeText_spec, fun page source s => ?_⟩
  have bare : source.plain = source.plain ∧ titleIn? source.level source.plain = none :=
    ⟨rfl, titleIn?_plain source⟩
  cases on : page.options.headerIds with
  | false =>
    refine ⟨source.plain, ?_, by simpa using bare⟩
    unfold renderHeading
    simp only [on, Bool.not_false, ↓reduceIte]
    rfl
  | true =>
    by_cases empty : source.slug page.options = []
    · obtain ⟨records, ran⟩ := runOn_renderHeading_bare on empty s
      exact ⟨source.plain, by rw [ran], by simpa [empty] using bare⟩
    · obtain ⟨records, ran⟩ := runOn_renderHeading_named on empty s
      have quoted := quote_not_mem_claim s.headingIds source page.options
      have plain : '>' ∉ (s.headingIds.claim (source.slug page.options)).1 :=
        not_mem_claim s.headingIds source page.options
          (fun inside => inside.elim (by decide) (by decide +kernel)) rfl
      refine ⟨_, by rw [ran], ?_⟩
      rw [if_pos ⟨rfl, empty⟩]
      refine ⟨_, titleIn?_withId _ _ quoted, attributeSafe_escapeAttribute _, ?_⟩
      rw [(attributeText_spec _).2, stripTags_contentFor source page.options plain]

end MarkdownSite.Heading
