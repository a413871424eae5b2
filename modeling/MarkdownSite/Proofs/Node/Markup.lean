import MarkdownSite.Node.Block
import MarkdownSite.Proofs.Text.Basic
import MarkdownSite.Proofs.Text.Escape
import MarkdownSite.Proofs.Text.Tags

/-!
# Well-formed inline markup

The elements that stand in running text, one after another and one inside another, with attributes
in double quotes and no other character that starts or ends a tag. The description of an image is
such markup without its tags, so it stays in the quotes around it.
-/

namespace MarkdownSite

open Text

/-- Attributes as they stand in a tag. -/
def attributesHtml (attributes : List (Text × Text)) : Text :=
  attributes.flatMap fun (name, value) => attributeHtml name value

/-- The tag that opens an element. -/
def startTag (name : Text) (attributes : List (Text × Text)) : Text :=
  '<' :: (name ++ attributesHtml attributes) ++ ">"

/-- The tag that closes an element. -/
def endTag (name : Text) : Text := "</" ++ name ++ ">"

/-- An element without attributes is its content between its tags. -/
theorem elementHtml_eq (name content : Text) :
    elementHtml name content = startTag name [] ++ content ++ endTag name := by
  simp [elementHtml, startTag, endTag, attributesHtml]

/-- The elements of running text that have a content. -/
def inlineElements : List Text :=
  ["em", "strong", "code", "a", "del", "mark", "ins", "sup", "sub"]

/-- The names and the values of attributes stay in their places. -/
def AreUnmarked (attributes : List (Text × Text)) : Prop :=
  ∀ pair ∈ attributes, Unmarked pair.1 ∧ Unmarked pair.2

instance (attributes : List (Text × Text)) : Decidable (AreUnmarked attributes) :=
  inferInstanceAs (Decidable (∀ pair ∈ attributes, _))

/-- No attributes stay in their places. -/
theorem areUnmarked_nil : AreUnmarked [] := by simp [AreUnmarked]

/-- Attributes one after another stay in their places. -/
theorem AreUnmarked.append {first second : List (Text × Text)} (one : AreUnmarked first)
    (two : AreUnmarked second) : AreUnmarked (first ++ second) := by
  intro pair member
  rcases List.mem_append.mp member with inside | inside
  · exact one pair inside
  · exact two pair inside

/-- One attribute stays in its place. -/
theorem areUnmarked_singleton {name value : Text} (plain : Unmarked name)
    (unmarked : Unmarked value) : AreUnmarked [(name, value)] := by
  intro pair member
  rw [List.mem_singleton.mp member]
  exact ⟨plain, unmarked⟩

/-- The attributes of two lists one after another. -/
theorem attributesHtml_append (first second : List (Text × Text)) :
    attributesHtml (first ++ second) = attributesHtml first ++ attributesHtml second :=
  List.flatMap_append

/-- One attribute as it stands in a tag. -/
theorem attributesHtml_singleton (name value : Text) :
    attributesHtml [(name, value)] = attributeHtml name value := by
  simp [attributesHtml]

/-- An attribute, or none. -/
def attributeIf (present : Bool) (name value : Text) : List (Text × Text) :=
  if present then [(name, value)] else []

/-- An attribute that is left out leaves nothing in the tag. -/
theorem attributesHtml_attributeIf (present : Bool) (name value : Text) :
    attributesHtml (attributeIf present name value) =
      if present then attributeHtml name value else [] := by
  cases present with
  | true => exact attributesHtml_singleton name value
  | false => rfl

/-- What stands among one attribute is this attribute. -/
theorem eq_of_mem_attributeIf {present : Bool} {name value : Text} {pair : Text × Text}
    (member : pair ∈ attributeIf present name value) : pair = (name, value) := by
  cases present with
  | true => exact List.mem_singleton.mp member
  | false => cases member

/-- An attribute that may be left out stays in its place. -/
theorem areUnmarked_attributeIf {name value : Text} (plain : Unmarked name)
    (unmarked : Unmarked value) (present : Bool) :
    AreUnmarked (attributeIf present name value) := by
  cases present with
  | true => exact areUnmarked_singleton plain unmarked
  | false => exact areUnmarked_nil

/-- A title is an attribute that an empty title leaves out. -/
theorem titleHtml_eq (title : Text) :
    titleHtml title =
      attributesHtml (attributeIf (!title.isEmpty) "title" (escapeAttribute title)) := by
  rw [attributesHtml_attributeIf, titleHtml]
  cases title with
  | nil => rfl
  | cons c title => rfl

/-- Well-formed markup of running text. -/
inductive Markup : Text → Prop
  | nil : Markup []
  /-- A character that starts and ends nothing. -/
  | text {c : Char} (plain : isMark c = false) {rest : Text} (follows : Markup rest) :
      Markup (c :: rest)
  /-- The end of a line, which has no content. -/
  | lineBreak {rest : Text} (follows : Markup rest) : Markup (startTag "br" [] ++ rest)
  /-- An element with its content. -/
  | element {name : Text} (known : name ∈ inlineElements) {attributes : List (Text × Text)}
      (unmarked : AreUnmarked attributes) {content rest : Text} (inside : Markup content)
      (follows : Markup rest) :
      Markup (startTag name attributes ++ content ++ endTag name ++ rest)

namespace Markup

/-- Markup followed by markup. -/
theorem append {s t : Text} (first : Markup s) (second : Markup t) : Markup (s ++ t) := by
  induction first with
  | nil => exact second
  | text plain follows ih => exact text plain ih
  | lineBreak follows ih =>
    rw [List.append_assoc]
    exact lineBreak ih
  | element known unmarked inside follows _ ih =>
    rw [List.append_assoc]
    exact element known unmarked inside ih

/-- A text that stays in quotes is markup without tags. -/
theorem of_unmarked {t : Text} (unmarked : Unmarked t) : Markup t := by
  induction t with
  | nil => exact nil
  | cons c t ih =>
    exact text (unmarked c List.mem_cons_self)
      (ih fun d member => unmarked d (List.mem_cons_of_mem c member))

/-- One element is markup if its content is. -/
theorem single {name : Text} (known : name ∈ inlineElements) {attributes : List (Text × Text)}
    (unmarked : AreUnmarked attributes) {content : Text} (inside : Markup content) :
    Markup (startTag name attributes ++ content ++ endTag name) := by
  have alone := element known unmarked inside nil
  rwa [List.append_nil] at alone

end Markup

/-! ## Markup without its tags -/

/-- Skipped characters play no part. -/
theorem describeFrom_append (skipped rest : Text) :
    describeFrom skipped.length (skipped ++ rest) = describeFrom 0 rest := by
  induction skipped with
  | nil => rfl
  | cons c skipped ih => exact ih

/-- A tag that is neither a comment nor an image leaves nothing in a description. -/
theorem imageDescription_tag {body : Text} (unclosed : '>' ∉ body)
    (other : ¬"!--".toList <+: body ∧ ¬"img".toList <+: body) (rest : Text) :
    imageDescription ('<' :: (body ++ '>' :: rest)) = imageDescription rest := by
  have absent {start : Text} (plain : '>' ∉ start) (differs : ¬start <+: body) :
      dropPrefix? start (body ++ '>' :: rest) = none := by
    cases dropped : dropPrefix? start (body ++ '>' :: rest) with
    | none => rfl
    | some after =>
      have begins : start <+: body ++ '>' :: rest :=
        ⟨after, (dropPrefix?_eq_some_iff.mp dropped).symm⟩
      exact absurd ((isPrefix_append_iff (by simpa using plain)).mp begins) differs
  have markup : markupHere? (body ++ '>' :: rest) = some ([], rest) := by
    rw [markupHere?, absent (by decide) other.1, absent (by decide) other.2]
    simp [afterTagEnd?_append unclosed]
  have skipped : (body ++ '>' :: rest).length - rest.length = (body ++ ['>']).length := by
    simp
    omega
  rw [imageDescription, describeFrom, if_pos rfl, markup]
  simp only [List.nil_append, skipped]
  rw [show body ++ '>' :: rest = body ++ ['>'] ++ rest by simp, describeFrom_append]
  rfl

/-- The names of the elements of running text end no tag, and none starts like that of an image. -/
theorem inlineElements_names {name : Text} (known : name ∈ "br".toList :: inlineElements) :
    '>' ∉ name ∧ ¬"!--".toList <+: name ∧ ¬"img".toList <+: name := by
  revert name
  decide

/-- No angle bracket stands among attributes. -/
theorem not_mem_attributesHtml {attributes : List (Text × Text)}
    (unmarked : AreUnmarked attributes) {bracket : Char} (angle : bracket = '<' ∨ bracket = '>') :
    bracket ∉ attributesHtml attributes := by
  have mark : isMark bracket = true := by rcases angle with rfl | rfl <;> rfl
  intro member
  obtain ⟨⟨name, value⟩, listed, inside⟩ := List.mem_flatMap.mp member
  have plain := unmarked (name, value) listed
  have outside {t : Text} (unmarked : Unmarked t) : bracket ∉ t := fun within => by
    rw [unmarked bracket within] at mark
    cases mark
  simp only [attributeHtml, List.mem_append, List.mem_cons] at inside
  rcases inside with ((((blank | named) | equals) | valued) | close)
  · rcases angle with rfl | rfl <;> exact absurd blank (by decide)
  · exact outside plain.1 named
  · rcases angle with rfl | rfl <;> exact absurd equals (by decide)
  · exact outside plain.2 valued
  · rcases angle with rfl | rfl <;> exact absurd close (by decide)

/-- Attributes start with a blank. -/
theorem head?_attributesHtml (attributes : List (Text × Text)) :
    ∀ c ∈ (attributesHtml attributes).head?, c = ' ' := by
  cases attributes with
  | nil => simp [attributesHtml]
  | cons first others => simp [attributesHtml, attributeHtml]

/-- A tag that opens an element leaves nothing in a description. -/
theorem imageDescription_startTag {name : Text} (known : name ∈ "br".toList :: inlineElements)
    {attributes : List (Text × Text)} (unmarked : AreUnmarked attributes) (rest : Text) :
    imageDescription (startTag name attributes ++ rest) = imageDescription rest := by
  obtain ⟨unclosed, comment, image⟩ := inlineElements_names known
  have tag : startTag name attributes ++ rest =
      '<' :: ((name ++ attributesHtml attributes) ++ '>' :: rest) := by
    simp [startTag]
  have apart {start : Text} (plain : ' ' ∉ start) :
      ∀ c ∈ (attributesHtml attributes).head?, c ∉ start := by
    intro c first
    rwa [head?_attributesHtml attributes c first]
  rw [tag, imageDescription_tag]
  · intro member
    rcases List.mem_append.mp member with inside | inside
    · exact unclosed inside
    · exact not_mem_attributesHtml unmarked (.inr rfl) inside
  · rw [isPrefix_append_iff (apart (by decide)), isPrefix_append_iff (apart (by decide))]
    exact ⟨comment, image⟩

/-- A tag that closes an element leaves nothing in a description. -/
theorem imageDescription_endTag {name : Text} (known : name ∈ inlineElements) (rest : Text) :
    imageDescription (endTag name ++ rest) = imageDescription rest := by
  obtain ⟨unclosed, -, -⟩ := inlineElements_names (List.mem_cons_of_mem _ known)
  have tag : endTag name ++ rest = '<' :: (('/' :: name) ++ '>' :: rest) := by simp [endTag]
  rw [tag, imageDescription_tag]
  · intro member
    rcases List.mem_cons.mp member with slash | inside
    · cases slash
    · exact unclosed inside
  · simp

/-- A character that opens no tag stays in a description. -/
theorem imageDescription_cons {c : Char} (plain : isMark c = false) (rest : Text) :
    imageDescription (c :: rest) = c :: imageDescription rest := by
  have other : c ≠ '<' := by
    rintro rfl
    cases plain
  rw [imageDescription, describeFrom, if_neg other]
  rfl

namespace Markup

/-- The description of markup and what follows it is made from each by itself. -/
theorem imageDescription_append {s : Text} (markup : Markup s) (t : Text) :
    imageDescription (s ++ t) = imageDescription s ++ imageDescription t := by
  induction markup generalizing t with
  | nil => rfl
  | text plain follows ih =>
    rw [List.cons_append, imageDescription_cons plain, imageDescription_cons plain, ih,
      List.cons_append]
  | lineBreak follows ih =>
    rw [List.append_assoc, imageDescription_startTag List.mem_cons_self areUnmarked_nil,
      imageDescription_startTag List.mem_cons_self areUnmarked_nil, ih]
  | element known unmarked inside follows ihInside ihFollows =>
    have opened := List.mem_cons_of_mem "br".toList known
    simp only [List.append_assoc]
    rw [imageDescription_startTag opened unmarked, imageDescription_startTag opened unmarked,
      ihInside, ihInside, imageDescription_endTag known, imageDescription_endTag known, ihFollows,
      List.append_assoc]

/-- **The description of markup stays in the quotes around it.** -/
theorem unmarked_imageDescription {s : Text} (markup : Markup s) :
    Unmarked (imageDescription s) := by
  induction markup with
  | nil => exact unmarked_nil
  | text plain follows ih =>
    rw [imageDescription_cons plain]
    intro c member
    rcases List.mem_cons.mp member with rfl | inside
    · exact plain
    · exact ih c inside
  | lineBreak follows ih =>
    rwa [imageDescription_startTag List.mem_cons_self areUnmarked_nil]
  | element known unmarked inside follows ihInside ihFollows =>
    simp only [List.append_assoc]
    rw [imageDescription_startTag (List.mem_cons_of_mem _ known) unmarked,
      inside.imageDescription_append, imageDescription_endTag known]
    exact unmarked_append.mpr ⟨ihInside, ihFollows⟩

end Markup

end MarkdownSite
