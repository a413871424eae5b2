import MarkdownSite.Proofs.Heading.Alias
import MarkdownSite.Proofs.Heading.Ids
import MarkdownSite.Proofs.Node.Run
import MarkdownSite.Proofs.Text.Slug

/-!
# Headings as they are written

The default handler writes a heading bare when its slug is empty. Otherwise it writes an id in up
to three places: as the id of the element, as the target of the header link, and, in a heading that
is a link into the document, as the target of that link. The id is the one that the table of heading
ids gives out at that moment.
-/

namespace MarkdownSite.Heading

open Text

/-- The link that a heading is, where options ask for it. -/
def Source.link? (source : Source) (options : RenderOptions) : Option AliasLink :=
  if options.anchorAlias then aliasLink? source.content else none

/-- The id that a heading asks for. -/
def Source.slug (source : Source) (options : RenderOptions) : Text :=
  headingSlug (idSource (source.link? options) source.content) options.modifyAnchors

/-- The id that stands in the opening tag of a heading of the given level, up to the quote that ends
it. -/
def idIn? (level html : Text) : Option Text :=
  (dropPrefix? ("<h" ++ level ++ " id=\"") html).map fun rest => rest.takeWhile (· != '"')

/-- The content that is shown: in a heading that is a link into the document the id stands in the
place of the target, and otherwise nothing changes. -/
def Source.Shows (source : Source) (options : RenderOptions) (id shown : Text) : Prop :=
  match source.link? options with
  | some link => link.CutsFrom source.content ∧ shown = link.before ++ id ++ link.after
  | none => shown = source.content

/-- What a heading may look like in HTML. -/
inductive Written (options : RenderOptions) (source : Source) (html : Text) : Prop
  /-- Nothing is left for an id. -/
  | bare (nothing : source.slug options = []) (unnamed : idIn? source.level html = none)
      (element : html = "<h" ++ source.level ++ ">" ++ source.content ++ "</h" ++ source.level
        ++ ">")
  /-- The heading has an id, the same in all places. -/
  | named (id shown : Text) (something : source.slug options ≠ []) (nonempty : id ≠ [])
      (named : idIn? source.level html = some id) (shows : source.Shows options id shown)
      (element : html = "<h" ++ source.level ++ " id=\"" ++ id ++ "\"><a href=\"#" ++ id
        ++ "\" class=\"headerlink\" title=\"" ++ attributeText shown ++ "\"></a>" ++ shown
        ++ "</h" ++ source.level ++ ">")

/-- A bare heading has no id to read. -/
theorem idIn?_plain (source : Source) : idIn? source.level source.plain = none := by
  have plain : source.plain = "<h" ++ source.level ++ '>' :: (source.content ++ "</"
      ++ 'h' :: source.level ++ ">") := by
    simp [Source.plain, elementHtml]
  rw [idIn?, Option.map_eq_none_iff, plain, Option.eq_none_iff_forall_ne_some]
  intro rest dropped
  have same := dropPrefix?_eq_some_iff.mp dropped
  simp only [List.append_assoc] at same
  have tails := List.append_cancel_left (List.append_cancel_left same)
  cases (List.cons.inj tails).1

/-- The id of a heading is not empty. -/
theorem Written.id?_ne_nil {options : RenderOptions} {source : Source} {html id : Text}
    (written : Written options source html) (read : idIn? source.level html = some id) :
    id ≠ [] := by
  cases written with
  | bare nothing unnamed element =>
    rw [unnamed] at read
    cases read
  | named given shown something nonempty named shows element =>
    rw [named] at read
    cases read
    exact nonempty

/-- The element of a heading with an id, its attributes written out. -/
theorem withId_eq (level content id : Text) :
    withId level content id = "<h" ++ level ++ " id=\"" ++ id ++ "\"><a href=\"#" ++ id
      ++ "\" class=\"headerlink\" title=\"" ++ attributeText content ++ "\"></a>" ++ content
      ++ "</h" ++ level ++ ">" := by
  simp [withId, attributeHtml]

/-- The id of a heading can be read from it if the id has no double quote. -/
theorem idIn?_withId (level content : Text) {id : Text} (plain : '"' ∉ id) :
    idIn? level (withId level content id) = some id := by
  have cut : withId level content id = ("<h" ++ level ++ " id=\"") ++ (id ++ '"' :: ("><a href=\"#"
      ++ id ++ "\" class=\"headerlink\" title=\"" ++ attributeText content ++ "\"></a>" ++ content
      ++ "</h" ++ level ++ ">")) := by
    simp [withId_eq]
  rw [idIn?, cut, dropPrefix?_append, Option.map_some, takeWhile_append_cons (by decide),
    takeWhile_bne plain]

/-- An id has no character that is foreign to slugs and to numbers. -/
theorem not_mem_claim (ids : HeadingIds) (source : Source) (options : RenderOptions) {c : Char}
    (foreign : ¬InSlug c) (noDigit : c.isDigit = false) :
    c ∉ (ids.claim (source.slug options)).1 := by
  have slug : c ∉ source.slug options := fun member => foreign (inSlug_of_mem_slug _ member)
  unfold HeadingIds.claim
  cases ids.counter? (source.slug options) with
  | none => exact slug
  | some start =>
    intro member
    rcases List.mem_append.mp member with inside | tail
    · exact slug inside
    · rcases List.mem_cons.mp tail with hyphen | digit
      · exact foreign (.inl hyphen)
      · have isDigit := isDigit_of_mem_ofNat digit
        rw [isDigit] at noDigit
        cases noDigit

/-- The double quote is not among the characters of slugs, so no id has one. -/
theorem quote_not_mem_claim (ids : HeadingIds) (source : Source) (options : RenderOptions) :
    '"' ∉ (ids.claim (source.slug options)).1 :=
  not_mem_claim ids source options (fun inside => inside.elim (by decide) (by decide +kernel)) rfl

/-- Giving out an id succeeds, with what the table answers, and changes the table accordingly. -/
theorem runOn_allocateId (fragment : Text) (transform : CaseTransform) (s : RenderState) :
    ∃ records, (allocateId fragment transform).runOn s =
      (.ok (s.headingIds.allocate fragment transform).1,
        { headingIds := (s.headingIds.allocate fragment transform).2, records }) := by
  unfold allocateId
  rw [RenderM.runOn_bind, RenderM.runOn_onIds]
  cases (s.headingIds.allocate fragment transform).1 with
  | none => exact ⟨_, rfl⟩
  | some unique => exact ⟨_, rfl⟩

/-- With ids on, a heading whose slug is empty is bare and the table stays as it is. -/
theorem runOn_renderHeading_bare {page : Page} (on : page.options.headerIds = true)
    {source : Source} (empty : source.slug page.options = []) (s : RenderState) :
    ∃ records, (renderHeading page source).runOn s =
      (.ok source.plain, { s with records }) := by
  obtain ⟨records, ran⟩ := runOn_allocateId (idSource (source.link? page.options) source.content)
    page.options.modifyAnchors s
  have nothing : s.headingIds.allocate (idSource (source.link? page.options) source.content)
      page.options.modifyAnchors = (none, s.headingIds) := by
    have slug : headingSlug (idSource (source.link? page.options) source.content)
      page.options.modifyAnchors = [] := empty
    simp [HeadingIds.allocate, slug]
  rw [nothing] at ran
  refine ⟨records, ?_⟩
  unfold renderHeading
  simp only [on, Bool.not_true, Bool.false_eq_true, ↓reduceIte]
  rw [RenderM.runOn_bind]
  unfold Source.link? at ran
  rw [ran]
  rfl

/-- With ids on, a heading whose slug is not empty gets what the table gives out for the slug. -/
theorem runOn_renderHeading_named {page : Page} (on : page.options.headerIds = true)
    {source : Source} (something : source.slug page.options ≠ []) (s : RenderState) :
    ∃ records, (renderHeading page source).runOn s =
      (.ok (withId source.level (contentFor (source.link? page.options) source.content
          (s.headingIds.claim (source.slug page.options)).1)
          (s.headingIds.claim (source.slug page.options)).1),
        { headingIds := (s.headingIds.claim (source.slug page.options)).2, records }) := by
  obtain ⟨records, ran⟩ := runOn_allocateId (idSource (source.link? page.options) source.content)
    page.options.modifyAnchors s
  have given : s.headingIds.allocate (idSource (source.link? page.options) source.content)
      page.options.modifyAnchors = (some (s.headingIds.claim (source.slug page.options)).1,
        (s.headingIds.claim (source.slug page.options)).2) := by
    have slug : (headingSlug (idSource (source.link? page.options) source.content)
      page.options.modifyAnchors).isEmpty = false := List.isEmpty_eq_false_iff.mpr something
    simp only [HeadingIds.allocate, slug, Bool.false_eq_true, ↓reduceIte]
    rfl
  rw [given] at ran
  refine ⟨records, ?_⟩
  unfold renderHeading
  simp only [on, Bool.not_true, Bool.false_eq_true, ↓reduceIte]
  rw [RenderM.runOn_bind]
  unfold Source.link? at ran
  rw [ran]
  rfl

/-- **A heading is written bare or with an id that is new to the table**, and the table keeps its
ids and takes the new one up. -/
theorem written_renderHeading {page : Page} (on : page.options.headerIds = true) (source : Source)
    (s : RenderState) :
    ∃ html, ((renderHeading page source).runOn s).1 = .ok html ∧
      Written page.options source html ∧
      (∀ id, idIn? source.level html = some id → s.headingIds.contains id = false) ∧
      ∀ id, ((renderHeading page source).runOn s).2.headingIds.contains id = true ↔
        idIn? source.level html = some id ∨ s.headingIds.contains id = true := by
  by_cases empty : source.slug page.options = []
  · obtain ⟨records, ran⟩ := runOn_renderHeading_bare on empty s
    refine ⟨source.plain, by rw [ran], .bare empty (idIn?_plain source) ?_, ?_, ?_⟩
    · simp [Source.plain, elementHtml]
    · intro id present
      rw [idIn?_plain] at present
      cases present
    · intro id
      rw [ran, idIn?_plain]
      simp
  · obtain ⟨records, ran⟩ := runOn_renderHeading_named on empty s
    have read := idIn?_withId source.level
      (contentFor (source.link? page.options) source.content
        (s.headingIds.claim (source.slug page.options)).1)
      (quote_not_mem_claim s.headingIds source page.options)
    refine ⟨_, by rw [ran], .named _ _ empty (s.headingIds.claim_ne_nil empty) read ?_
      (withId_eq _ _ _), ?_, ?_⟩
    · unfold Source.Shows contentFor
      cases linked : source.link? page.options with
      | none => rfl
      | some link =>
        refine ⟨?_, rfl⟩
        unfold Source.link? at linked
        split at linked
        · exact cutsFrom_aliasLink? linked
        · cases linked
    · intro id same
      rw [read] at same
      cases same
      exact s.headingIds.claim_new _
    · intro id
      rw [ran, read, HeadingIds.contains_claim, Option.some_inj, eq_comm]

end MarkdownSite.Heading
