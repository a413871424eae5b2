import MarkdownSite.Proofs.Node.DescriptionList
import MarkdownSite.Proofs.Node.Fragment

/-!
# Description lists among elements

A description list is cut out of HTML without a look at its elements. Its tags are read wherever
they come to stand, so the paragraph stays well nested exactly if the list leaves the same elements
open as the text that it replaces. An element that starts in the term and ends in the description
does not come out so.
-/

namespace MarkdownSite

open Text Fragment

/-! ## What a list replaces -/

/-- A text cut where a description list is made of a part of it. -/
structure ListCut (content made : Text) where
  /-- What comes before the list and stays. -/
  before : Text
  /-- The blank before the term, which goes, or nothing at the start of the text. -/
  lead : Text
  /-- The term. -/
  term : Text
  /-- The blanks after the mark. -/
  blanks : Text
  /-- The description, to the end of its line. -/
  description : Text
  /-- The lines that follow and stay. -/
  rest : Text
  /-- The parts are those of the text. -/
  content_eq : content =
    before ++ (lead ++ (term ++ (termEnd ++ (blanks ++ (description ++ rest)))))
  /-- The list stands between what stays. -/
  made_eq : made = before ++ (descriptionHtml term description ++ rest)
  /-- Only at the start of the text no blank comes before the term. -/
  before_eq : lead = [] → before = []
  /-- What goes with the term is blank. -/
  lead_blank : ∀ c ∈ lead, isBlank c = true
  /-- What goes with the mark is blank. -/
  blanks_blank : ∀ c ∈ blanks, isBlank c = true
  /-- What follows starts with the end of a line. -/
  line : ∀ c ∈ rest.head?, c = '\n'

/-- The list that is made. -/
def ListCut.list {content made : Text} (cut : ListCut content made) : Text :=
  descriptionHtml cut.term cut.description

/-- The text that the list replaces. -/
def ListCut.replaced {content made : Text} (cut : ListCut content made) : Text :=
  cut.lead ++ (cut.term ++ (termEnd ++ (cut.blanks ++ cut.description)))

/-- A list after a blank is cut out of the text with the blank. -/
theorem exists_listCut_afterBlank {content made : Text}
    (found : describeAfterBlank? content = some made) :
    ∃ cut : ListCut content made, cut.lead ≠ [] := by
  induction content generalizing made with
  | nil => cases found
  | cons c content ih =>
    rw [describeAfterBlank?_cons] at found
    split at found
    · rename_i term description rest here
      split at here
      · rename_i blank
        obtain ⟨after, rfl, blanks, rfl, skipped, line⟩ := cuts_descriptionHere? here
        cases found
        have single : ∀ d ∈ [c], isBlank d = true := by simpa using blank
        exact ⟨⟨[], [c], term, blanks, description, rest, rfl, rfl, fun _ => rfl, single, skipped,
          line⟩, List.cons_ne_nil c []⟩
      · cases here
    · obtain ⟨later, inside, rfl⟩ := Option.map_eq_some_iff.mp found
      obtain ⟨cut, present⟩ := ih inside
      exact ⟨⟨c :: cut.before, cut.lead, cut.term, cut.blanks, cut.description, cut.rest,
        congrArg (List.cons c) cut.content_eq, congrArg (List.cons c) cut.made_eq,
        fun absent => absurd absent present, cut.lead_blank, cut.blanks_blank, cut.line⟩, present⟩

/-- A list is cut out of the text that it is made of. -/
theorem exists_listCut {content made : Text} (found : describe? content = some made) :
    Nonempty (ListCut content made) := by
  unfold describe? at found
  split at found
  · rename_i term description rest here
    obtain ⟨after, rfl, blanks, rfl, skipped, line⟩ := cuts_descriptionHere? here
    cases found
    exact ⟨⟨[], [], term, blanks, description, rest, rfl, rfl, fun _ => rfl, by simp, skipped,
      line⟩⟩
  · obtain ⟨cut, -⟩ := exists_listCut_afterBlank found
    exact ⟨cut⟩

namespace ListCut

variable {content made : Text} (cut : ListCut content made)

/-- The text is what comes before the list, what the list replaces, and the rest. -/
theorem content_split : content = cut.before ++ (cut.replaced ++ cut.rest) := by
  refine cut.content_eq.trans ?_
  simp only [replaced, List.append_assoc]

/-- The text with the list is what comes before it, the list, and the rest. -/
theorem made_split : made = cut.before ++ (cut.list ++ cut.rest) := cut.made_eq

/-- The list is its tags, the term and the description. -/
theorem list_eq : cut.list =
    "<dl><dt>" ++ (cut.term ++ ("</dt><dd>" ++ (cut.description ++ "</dd></dl>"))) := by
  have written : cut.list =
      "<dl><dt>" ++ cut.term ++ "</dt><dd>" ++ cut.description ++ "</dd></dl>" := rfl
  simp only [List.append_assoc] at written
  exact written

/-! ## Where a reader stands -/

/-- The tags before a term. -/
theorem areTags_beforeTerm : Position.AreTags "<dl><dt>" :=
  ⟨⟨_, rfl⟩, rfl, by decide, by decide⟩

/-- The tags between a term and its description. -/
theorem areTags_afterTerm : Position.AreTags "</dt><dd>" :=
  ⟨⟨_, rfl⟩, rfl, by decide, by decide⟩

/-- The tags after a description. -/
theorem areTags_afterDescription : Position.AreTags "</dd></dl>" :=
  ⟨⟨_, rfl⟩, rfl, by decide, by decide⟩

/-- The mark of a term is a tag and a colon. -/
theorem areTags_termEnd : Position.AreTags termEnd := ⟨⟨_, rfl⟩, rfl, by decide, by decide⟩

section Position

variable {position : Position}

/-- Blanks leave a reader where it is that has gone on in a text. -/
theorem read_settled (text : position.TakesText) {blanks : Text}
    (blank : ∀ c ∈ blanks, isBlank c = true) :
    position.settled.read blanks = some position.settled := by
  have gone := Position.settled_settled position
  exact Reader.position_of_read (r := { position := position.settled })
    (Reader.read_blanks text.settled gone blank)

/-- What goes with a term goes on in a text. -/
theorem read_lead (text : position.TakesText) (start : cut.lead = [] → position = .content) :
    position.read cut.lead = some position.settled := by
  have blank := cut.lead_blank
  cases lead : cut.lead with
  | nil =>
    rw [start lead]
    rfl
  | cons b blanks =>
    rw [lead] at blank
    rw [Position.read, List.foldlM_cons, Position.next?_blank text (blank b List.mem_cons_self)]
    exact read_settled text fun c member => blank c (List.mem_cons_of_mem b member)

/-- A reader that comes to the end of a list stands there where it goes on in a text after what the
list replaces. -/
theorem position_list {after last : Position} (start : cut.lead = [] → position = .content)
    (listed : position.read cut.list = some after)
    (original : position.read cut.replaced = some last) :
    last.TakesText ∧ after = last.settled := by
  rw [list_eq] at listed
  obtain ⟨opened, tags, listed⟩ := Position.read_append_eq_some.mp listed
  obtain ⟨text, rfl⟩ := areTags_beforeTerm.read_eq_some_iff.mp tags
  obtain ⟨named, term, listed⟩ := Position.read_append_eq_some.mp listed
  obtain ⟨middle, tags, listed⟩ := Position.read_append_eq_some.mp listed
  obtain ⟨within, rfl⟩ := areTags_afterTerm.read_eq_some_iff.mp tags
  obtain ⟨described, description, tags⟩ := Position.read_append_eq_some.mp listed
  obtain ⟨inside, rfl⟩ := areTags_afterDescription.read_eq_some_iff.mp tags
  -- the term is read from the same place with the list and without it, and so is the description
  have whole : position.read cut.replaced = some described := by
    refine Position.read_append_eq_some.mpr ⟨_, cut.read_lead text start, ?_⟩
    refine Position.read_append_eq_some.mpr ⟨_, term, ?_⟩
    refine Position.read_append_eq_some.mpr ⟨_, areTags_termEnd.read within, ?_⟩
    exact Position.read_append_eq_some.mpr
      ⟨_, read_settled within cut.blanks_blank, description⟩
  rw [whole] at original
  cases original
  exact ⟨inside, rfl⟩

end Position

/-! ## Which elements are open -/

section Reader

variable {r : Reader}

/-- A reader before the list that stands at its place only at the start of the text. -/
theorem start_of_read (placed : Reader.read {} cut.before = some r) :
    cut.lead = [] → r.position = .content := by
  intro absent
  rw [cut.before_eq absent] at placed
  cases placed
  rfl

/-- What follows what the list replaces is read in the same way by a reader that has gone on in the
text. -/
theorem read_rest {last : Reader} (text : last.position.TakesText)
    (ends : last.read cut.rest = some {}) :
    Reader.read { last with position := last.position.settled } cut.rest = some {} := by
  have line := cut.line
  cases rest : cut.rest with
  | nil =>
    rw [rest] at ends
    cases ends
    rfl
  | cons c more =>
    have blank : isBlank c = true := by
      rw [rest] at line
      rw [line c rfl]
      rfl
    rw [rest, Reader.read_cons, Reader.step_blank text blank] at ends
    rw [Reader.read_cons, Reader.step_blank text.settled blank, Position.settled_settled]
    exact ends

/-- The text with a list is well nested exactly if the same elements are open after the list as
after the text that it replaces. -/
theorem wellNested_made_iff (nested : WellNested content)
    (placed : Reader.read {} cut.before = some r) :
    WellNested made ↔
      (r.read cut.list).map Reader.opened = (r.read cut.replaced).map Reader.opened := by
  have start := cut.start_of_read placed
  rw [WellNested, cut.content_split, Reader.read_append, placed, Option.bind_some,
    Reader.read_append_eq_some] at nested
  obtain ⟨last, original, ends⟩ := nested
  have moved {after : Reader} (listed : r.read cut.list = some after) :
      last.position.TakesText ∧ after.position = last.position.settled :=
    cut.position_list start (Reader.position_of_read listed) (Reader.position_of_read original)
  have parts : WellNested made ↔ WellNested (cut.before ++ (cut.list ++ cut.rest)) :=
    iff_of_eq (congrArg WellNested cut.made_split)
  rw [parts, WellNested, Reader.read_append, placed, Option.bind_some,
    Reader.read_append_eq_some, original, Option.map_some, Option.map_eq_some_iff]
  constructor
  · rintro ⟨after, listed, done⟩
    obtain ⟨text, position⟩ := moved listed
    have same := Reader.eq_of_read position done (cut.read_rest text ends)
    exact ⟨after, listed, by rw [same]⟩
  · rintro ⟨after, listed, same⟩
    obtain ⟨text, position⟩ := moved listed
    have settled : after = { last with position := last.position.settled } :=
      Reader.ext position same
    exact ⟨after, listed, settled ▸ cut.read_rest text ends⟩

/-- A list of a term and a description that are each well nested leaves the same elements open as
the text that it replaces, if it stands between tags. -/
theorem opened_list_of_wellNested {opened : List Text} (term : WellNested cut.term)
    (description : WellNested cut.description) :
    (Reader.read { opened } cut.list).map Reader.opened =
      (Reader.read { opened } cut.replaced).map Reader.opened := by
  have listed : Reader.read { opened } cut.list = some { opened } := by
    have starts : Reader.read { opened } "<dl><dt>" = some { opened := "dt" :: "dl" :: opened } :=
      rfl
    have middle : Reader.read { opened := "dt" :: "dl" :: opened } "</dt><dd>" =
        some { opened := "dd" :: "dl" :: opened } := rfl
    have stops : Reader.read { opened := "dd" :: "dl" :: opened } "</dd></dl>" =
        some { opened } := rfl
    rw [list_eq, Reader.read_append, starts, Option.bind_some, Reader.read_append,
      Reader.read_of_wellNested term, Option.bind_some, Reader.read_append, middle,
      Option.bind_some, Reader.read_append, Reader.read_of_wellNested description,
      Option.bind_some, stops]
  have original : Reader.read { opened } cut.replaced = some { opened } := by
    have lead : Reader.read { opened } cut.lead = some { opened } :=
      Reader.read_blanks (r := { opened }) trivial rfl cut.lead_blank
    have mark : Reader.read { opened } termEnd = some { opened } := rfl
    have blanks : Reader.read { opened } cut.blanks = some { opened } :=
      Reader.read_blanks (r := { opened }) trivial rfl cut.blanks_blank
    rw [replaced, Reader.read_append, lead, Option.bind_some, Reader.read_append,
      Reader.read_of_wellNested term, Option.bind_some, Reader.read_append, mark,
      Option.bind_some, Reader.read_append, blanks, Option.bind_some,
      Reader.read_of_wellNested description]
  rw [listed, original]

end Reader

end ListCut

/-! ## Paragraphs -/

/-- Content in the element of a paragraph is well nested if it is so by itself. -/
theorem wellNested_paragraph {content : Text} (nested : WellNested content) :
    WellNested (elementHtml "p" content ++ ['\n']) := by
  have starts : Reader.read {} "<p>" = some { opened := ["p"] } := rfl
  have stops : Reader.read { opened := ["p"] } "</p>\n" = some {} := rfl
  have written : elementHtml "p" content ++ ['\n'] = "<p>" ++ (content ++ "</p>\n") := by
    simp [elementHtml]
  rw [written, WellNested, Reader.read_append, starts, Option.bind_some, Reader.read_append,
    Reader.read_of_wellNested nested, Option.bind_some, stops]

/-- **A paragraph is well nested** if its content is and no list is made; where one is made, exactly
if the same elements are open after the list as after the text that it replaces. They are if the
list stands between tags and its term and its description are each well nested. -/
theorem renderParagraph_wellNested {page : Page} {content : Text} (nested : WellNested content) :
    (page.options.descriptionLists = false ∨ describe? content = none →
      WellNested (renderParagraph page content)) ∧
    ∀ {made}, page.options.descriptionLists = true → describe? content = some made →
      Nonempty (ListCut content made) ∧ ∀ cut : ListCut content made,
        ∃ r, Reader.read {} cut.before = some r ∧
          (WellNested (renderParagraph page content) ↔
            (r.read cut.list).map Reader.opened = (r.read cut.replaced).map Reader.opened) ∧
          (r.position = .content → WellNested cut.term → WellNested cut.description →
            WellNested (renderParagraph page content)) := by
  constructor
  · intro unlisted
    have plain : renderParagraph page content = elementHtml "p" content ++ ['\n'] := by
      unfold renderParagraph
      rcases unlisted with off | absent
      · simp [off]
      · simp [absent]
    rw [plain]
    exact wellNested_paragraph nested
  · intro made allowed found
    have listed : renderParagraph page content = made := by
      unfold renderParagraph
      simp [allowed, found]
    refine ⟨exists_listCut found, fun cut => ?_⟩
    have whole := nested
    rw [WellNested, cut.content_split, Reader.read_append_eq_some] at whole
    obtain ⟨r, placed, -⟩ := whole
    have exactly := cut.wellNested_made_iff nested placed
    rw [listed]
    refine ⟨r, placed, exactly, fun between term description => exactly.mpr ?_⟩
    have inText : r = { opened := r.opened } := Reader.ext between rfl
    rw [inText]
    exact cut.opened_list_of_wellNested term description

/-- Emphasis that starts in a term and ends in its description is cut in two. -/
theorem renderParagraph_straddling_emphasis :
    WellNested "<em>a<br>: b</em>" ∧ ¬WellNested (renderParagraph {} "<em>a<br>: b</em>") := by
  decide +kernel

/-- A term and a description with elements of their own, between other lines. -/
theorem renderParagraph_wellNested_of_elements :
    let content : Text := "<b>\n<i>Term</i> one<br>: A <a title=\"x>y\">link</a>\n</b> and more"
    let made : Text :=
      "<b><dl><dt><i>Term</i> one</dt><dd>A <a title=\"x>y\">link</a></dd></dl>\n</b> and more"
    WellNested content ∧ describe? content = some made ∧
      WellNested (renderParagraph {} content) := by
  intro content made
  have nested : WellNested content := by decide +kernel
  have found : describe? content = some made := by decide +kernel
  let cut : ListCut content made := {
    before := "<b>"
    lead := "\n"
    term := "<i>Term</i> one"
    blanks := " "
    description := "A <a title=\"x>y\">link</a>"
    rest := "\n</b> and more"
    content_eq := by decide +kernel
    made_eq := by decide +kernel
    before_eq := by decide
    lead_blank := List.all_eq_true.mp (by decide)
    blanks_blank := List.all_eq_true.mp (by decide)
    line := by
      intro c first
      cases first
      rfl }
  have allowed : ({} : Page).options.descriptionLists = true := rfl
  obtain ⟨r, placed, -, enough⟩ := ((renderParagraph_wellNested nested).2 allowed found).2 cut
  have between : r.position = .content := by
    cases placed
    rfl
  exact ⟨nested, found, enough between (by decide +kernel) (by decide +kernel)⟩

end MarkdownSite
