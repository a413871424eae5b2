import MarkdownSite.Proofs.Node.Markup
import MarkdownSite.Proofs.Value.Entries

/-!
# Well-nested HTML

A reader goes over HTML once, from its start to its end, and keeps the elements that are open. It
knows the tags of running text, takes attributes in double quotes only, and stops at a `<` or a `>`
anywhere else and at an end tag that does not close the innermost element.
-/

namespace MarkdownSite

open Text

namespace Html

/-- Where in HTML a reader stands. -/
inductive Position where
  /-- Between tags. -/
  | content
  /-- After the `<` of a tag. -/
  | tagStart
  /-- In the name of a start tag. -/
  | startName (tag : Text)
  /-- In the name of an end tag. -/
  | endName (tag : Text)
  /-- In the name of an attribute. -/
  | attributeName (tag name : Text)
  /-- Before the quote that starts the value of an attribute. -/
  | equals (tag : Text)
  /-- In the value of an attribute. -/
  | value (tag : Text)
  /-- After the quote that ends the value of an attribute. -/
  | afterValue (tag : Text)
  deriving DecidableEq, Repr

/-- What a reader keeps: where it stands, and the elements that are open, innermost first. -/
structure Reader where
  /-- Where it stands. -/
  position : Position := .content
  /-- The elements that are open. -/
  opened : List Text := []
  deriving DecidableEq, Repr

/-- The attributes that the elements of running text may have. -/
def attributeNames : List (Text × List Text) :=
  [("em", []), ("strong", []), ("code", []), ("br", []), ("a", ["href", "title", "target", "rel"])]

/-- The attributes that an element may have; there are none for other elements. -/
def attributesOf (tag : Text) : List Text := (attributeNames.lookup tag).getD []

/-- Whether a name is that of an element of running text. -/
def isElement (tag : Text) : Bool := (attributeNames.lookup tag).isSome

/-- The elements without a content. -/
def voidElements : List Text := ["br"]

/-- A start tag ends: its element is open, unless it has no content. -/
def Reader.endStartTag (opened : List Text) (tag : Text) : Option Reader :=
  if !isElement tag then none
  else if voidElements.contains tag then some { opened }
  else some { opened := tag :: opened }

/-- An end tag ends: it has to close the innermost element. -/
def Reader.endEndTag (opened : List Text) (tag : Text) : Option Reader :=
  match opened with
  | innermost :: others => if innermost = tag then some { opened := others } else none
  | [] => none

/-- The reader after one more character, if this may stand there. -/
def Reader.step (r : Reader) (c : Char) : Option Reader :=
  match r.position with
  | .content =>
    if c = '<' then some { r with position := .tagStart }
    else if c = '>' then none
    else some r
  | .tagStart =>
    if c = '/' then some { r with position := .endName [] }
    else if c.isLower then some { r with position := .startName [c] }
    else none
  | .startName tag =>
    if c = '>' then endStartTag r.opened tag
    else if c = ' ' then some { r with position := .attributeName tag [] }
    else if c.isLower then some { r with position := .startName (tag ++ [c]) }
    else none
  | .endName tag =>
    if c = '>' then endEndTag r.opened tag
    else if c.isLower then some { r with position := .endName (tag ++ [c]) }
    else none
  | .attributeName tag name =>
    if c = '=' then
      if name ∈ attributesOf tag then some { r with position := .equals tag } else none
    else if c.isLower then some { r with position := .attributeName tag (name ++ [c]) }
    else none
  | .equals tag => if c = '"' then some { r with position := .value tag } else none
  | .value tag =>
    if c = '"' then some { r with position := .afterValue tag }
    else if c = '<' ∨ c = '>' then none
    else some r
  | .afterValue tag =>
    if c = '>' then endStartTag r.opened tag
    else if c = ' ' then some { r with position := .attributeName tag [] }
    else none

/-- The reader after a piece of HTML. -/
def Reader.read (r : Reader) (html : Text) : Option Reader := html.foldlM Reader.step r

/-- HTML is well-nested: a reader comes to its end, stands between tags there, and no element is
open. -/
def WellNested (html : Text) : Prop := Reader.read {} html = some {}

instance (html : Text) : Decidable (WellNested html) := decEq (Reader.read {} html) (some {})

namespace Reader

/-- HTML in two pieces is read one after the other. -/
theorem read_append {r middle last : Reader} {first second : Text}
    (one : r.read first = some middle) (two : middle.read second = some last) :
    r.read (first ++ second) = some last := by
  have start : first.foldlM Reader.step r = some middle := one
  rw [read, List.foldlM_append, start]
  exact two

/-- One character is read in one step. -/
theorem read_cons {r middle last : Reader} {c : Char} {rest : Text}
    (one : r.step c = some middle) (two : middle.read rest = some last) :
    r.read (c :: rest) = some last := by
  rw [read, List.foldlM_cons, one]
  exact two

/-- A reader that every character of a piece leaves where it is stays there. -/
theorem read_of_stays {r : Reader} {html : Text} (stays : ∀ c ∈ html, r.step c = some r) :
    r.read html = some r := by
  induction html with
  | nil => rfl
  | cons c html ih =>
    exact read_cons (stays c List.mem_cons_self)
      (ih fun d member => stays d (List.mem_cons_of_mem c member))

/-- A name is read to its end by a reader that keeps its lower case letters one by one. -/
theorem read_name {keeping : Text → Reader}
    (kept : ∀ before c, c.isLower = true →
      (keeping before).step c = some (keeping (before ++ [c])))
    {name : Text} (lower : ∀ c ∈ name, c.isLower = true) (before : Text) :
    (keeping before).read name = some (keeping (before ++ name)) := by
  induction name generalizing before with
  | nil =>
    rw [List.append_nil]
    rfl
  | cons c name ih =>
    have first := kept before c (lower c List.mem_cons_self)
    have others := ih (fun d member => lower d (List.mem_cons_of_mem c member)) (before ++ [c])
    rw [List.append_assoc, List.singleton_append] at others
    exact read_cons first others

/-- A lower case letter is none of the characters that end a name. -/
theorem ne_of_isLower {c stop : Char} (lower : c.isLower = true) (other : stop.isLower = false) :
    c ≠ stop := by
  rintro rfl
  rw [lower] at other
  cases other

variable {opened : List Text} {tag name : Text}

/-- A reader keeps the letters of the name of a start tag. -/
theorem step_startName (before : Text) (c : Char) (lower : c.isLower = true) :
    step { position := .startName before, opened } c =
      some { position := .startName (before ++ [c]), opened } := by
  have closes : c ≠ '>' := ne_of_isLower lower rfl
  have blank : c ≠ ' ' := ne_of_isLower lower rfl
  simp only [step, closes, blank, lower, ↓reduceIte]

/-- A reader keeps the letters of the name of an end tag. -/
theorem step_endName (before : Text) (c : Char) (lower : c.isLower = true) :
    step { position := .endName before, opened } c =
      some { position := .endName (before ++ [c]), opened } := by
  have closes : c ≠ '>' := ne_of_isLower lower rfl
  simp only [step, closes, lower, ↓reduceIte]

/-- A reader keeps the letters of the name of an attribute. -/
theorem step_attributeName (before : Text) (c : Char) (lower : c.isLower = true) :
    step { position := .attributeName tag before, opened } c =
      some { position := .attributeName tag (before ++ [c]), opened } := by
  have equals : c ≠ '=' := ne_of_isLower lower rfl
  simp only [step, equals, lower, ↓reduceIte]

/-- Text without angle brackets is read between tags. -/
theorem read_content {t : Text} (plain : ∀ c ∈ t, c ≠ '<' ∧ c ≠ '>') :
    read { opened } t = some { opened } := by
  refine read_of_stays fun c member => ?_
  obtain ⟨opens, closes⟩ := plain c member
  simp only [step, opens, closes, ↓reduceIte]

/-- A text that stays in its quotes is read there. -/
theorem read_value {t : Text} (unmarked : Unmarked t) :
    read { position := .value tag, opened } t = some { position := .value tag, opened } := by
  refine read_of_stays fun c member => ?_
  have plain := unmarked c member
  simp only [isMark, Bool.or_eq_false_iff, beq_eq_false_iff_ne] at plain
  obtain ⟨⟨quote, opens⟩, closes⟩ := plain
  simp only [step, quote, opens, closes, or_self, ↓reduceIte]

end Reader

/-! ## Tags -/

/-- The names of elements and of attributes are lower case letters. -/
theorem isLower_attributeNames :
    ∀ entry ∈ attributeNames, entry.1 ≠ [] ∧ (∀ c ∈ entry.1, c.isLower = true) ∧
      ∀ name ∈ entry.2, ∀ c ∈ name, c.isLower = true := by
  have table : (attributeNames.all fun entry => !entry.1.isEmpty && entry.1.all Char.isLower &&
      entry.2.all fun name => name.all Char.isLower) = true := by
    decide
  simpa only [List.all_eq_true, Bool.and_eq_true, Bool.not_eq_true', List.isEmpty_eq_false_iff,
    and_assoc] using table

/-- An element stands in the table with its attributes. -/
theorem mem_attributeNames {tag : Text} (element : isElement tag = true) :
    (tag, attributesOf tag) ∈ attributeNames := by
  obtain ⟨names, found⟩ := Option.isSome_iff_exists.mp element
  rw [attributesOf, found, Option.getD_some]
  exact Entries.mem_of_lookup found

/-- Only elements have attributes. -/
theorem isElement_of_mem {tag name : Text} (listed : name ∈ attributesOf tag) :
    isElement tag = true := by
  unfold attributesOf at listed
  unfold isElement
  cases found : attributeNames.lookup tag with
  | none =>
    rw [found] at listed
    cases listed
  | some names => rfl

/-- Attributes that an element may have, whose values stay in their quotes. -/
def Fits (tag : Text) (attributes : List (Text × Text)) : Prop :=
  ∀ pair ∈ attributes, pair.1 ∈ attributesOf tag ∧ Unmarked pair.2

/-- A reader stands in a start tag after its name or after an attribute. -/
def Position.InTag (tag : Text) (position : Position) : Prop :=
  position = .startName tag ∨ position = .afterValue tag

variable {tag : Text} {opened : List Text}

/-- An attribute that an element may have is read in its tag. -/
theorem read_attributeHtml {position : Position} (inside : position.InTag tag) {name value : Text}
    (listed : name ∈ attributesOf tag) (unmarked : Unmarked value) :
    Reader.read { position, opened } (attributeHtml name value) =
      some { position := .afterValue tag, opened } := by
  have blank : Reader.step { position, opened } ' ' =
      some { position := .attributeName tag [], opened } := by
    rcases inside with rfl | rfl <;> rfl
  have equals : Reader.step { position := .attributeName tag name, opened } '=' =
      some { position := .equals tag, opened } := by
    simp only [Reader.step, listed, ↓reduceIte]
  have entry := mem_attributeNames (isElement_of_mem listed)
  have lower := (isLower_attributeNames _ entry).2.2 name listed
  have written : attributeHtml name value =
      ' ' :: (name ++ '=' :: '"' :: (value ++ ['"'])) := by
    simp [attributeHtml]
  rw [written]
  refine Reader.read_cons blank (Reader.read_append
    (Reader.read_name Reader.step_attributeName lower []) ?_)
  refine Reader.read_cons equals (Reader.read_cons rfl ?_)
  exact Reader.read_append (Reader.read_value unmarked) rfl

/-- Attributes that an element may have are read in its tag. -/
theorem read_attributesHtml {attributes : List (Text × Text)} (fits : Fits tag attributes)
    {position : Position} (inside : position.InTag tag) (opened : List Text) :
    ∃ after : Position, after.InTag tag ∧
      Reader.read { position, opened } (attributesHtml attributes) =
        some { position := after, opened } := by
  induction attributes generalizing position with
  | nil => exact ⟨position, inside, rfl⟩
  | cons first others ih =>
    obtain ⟨listed, unmarked⟩ := fits first List.mem_cons_self
    obtain ⟨after, inTag, rest⟩ := ih (fun pair member => fits pair (List.mem_cons_of_mem _ member))
      (.inr rfl)
    exact ⟨after, inTag, Reader.read_append (read_attributeHtml inside listed unmarked) rest⟩

/-- The `>` of a start tag ends it. -/
theorem step_inTag {position : Position} (inside : position.InTag tag) :
    Reader.step { position, opened } '>' = Reader.endStartTag opened tag := by
  rcases inside with rfl | rfl <;> rfl

/-- A start tag is read to its end. -/
theorem read_startTag (element : isElement tag = true) {attributes : List (Text × Text)}
    (fits : Fits tag attributes) {after : Reader}
    (ended : Reader.endStartTag opened tag = some after) :
    Reader.read { opened } (startTag tag attributes) = some after := by
  obtain ⟨nonempty, lower, -⟩ := isLower_attributeNames _ (mem_attributeNames element)
  obtain ⟨c, rest, rfl⟩ := List.exists_cons_of_ne_nil nonempty
  have first : c.isLower = true := lower c List.mem_cons_self
  have slash : c ≠ '/' := Reader.ne_of_isLower first rfl
  have named : Reader.step { position := .tagStart, opened } c =
      some { position := .startName [c], opened } := by
    simp only [Reader.step, slash, first, ↓reduceIte]
  have afterName : Position.InTag (c :: rest) (.startName (c :: rest)) := .inl rfl
  obtain ⟨position, inside, attributed⟩ := read_attributesHtml fits afterName opened
  have closed : Reader.step { position, opened } '>' = some after := by
    rw [step_inTag inside, ended]
  have written : startTag (c :: rest) attributes =
      '<' :: c :: (rest ++ (attributesHtml attributes ++ ['>'])) := by
    simp [startTag]
  rw [written]
  refine Reader.read_cons rfl (Reader.read_cons named (Reader.read_append
    (Reader.read_name Reader.step_startName
      (fun d member => lower d (List.mem_cons_of_mem c member)) [c]) ?_))
  exact Reader.read_append attributed (Reader.read_cons closed rfl)

/-- The end tag of the innermost element closes it. -/
theorem read_endTag (element : isElement tag = true) :
    Reader.read { opened := tag :: opened } (endTag tag) = some { opened } := by
  obtain ⟨-, lower, -⟩ := isLower_attributeNames _ (mem_attributeNames element)
  have closed : Reader.step { position := .endName tag, opened := tag :: opened } '>' =
      some { opened } := by
    simp only [Reader.step, Reader.endEndTag, ↓reduceIte]
  have written : endTag tag = '<' :: '/' :: (tag ++ ['>']) := by
    simp [endTag]
  rw [written]
  refine Reader.read_cons rfl (Reader.read_cons rfl (Reader.read_append
    (Reader.read_name Reader.step_endName lower []) ?_))
  exact Reader.read_cons closed rfl

/-! ## Markup that closes what it opens -/

/-- A reader between tags goes over a piece of HTML and stands between tags again, with the same
elements open. -/
def Nests (html : Text) : Prop := ∀ opened, Reader.read { opened } html = some { opened }

/-- HTML that closes what it opens is well-nested by itself. -/
theorem Nests.wellNested {html : Text} (nests : Nests html) : WellNested html := nests []

/-- Nothing opens nothing. -/
theorem nests_nil : Nests [] := fun _ => rfl

/-- Two pieces that close what they open do so together. -/
theorem Nests.append {first second : Text} (one : Nests first) (two : Nests second) :
    Nests (first ++ second) :=
  fun opened => Reader.read_append (one opened) (two opened)

/-- Text without angle brackets opens nothing. -/
theorem nests_of_unmarked {t : Text} (unmarked : Unmarked t) : Nests t := by
  refine fun opened => Reader.read_content fun c member => ?_
  have plain := unmarked c member
  simp only [isMark, Bool.or_eq_false_iff, beq_eq_false_iff_ne] at plain
  exact ⟨plain.1.2, plain.2⟩

/-- An element closes what it opens if its content does. -/
theorem nests_element {name : Text} (element : isElement name = true)
    (filled : voidElements.contains name = false) {attributes : List (Text × Text)}
    (fits : Fits name attributes) {content : Text} (inside : Nests content) :
    Nests (startTag name attributes ++ content ++ endTag name) := by
  intro opened
  have opens : Reader.endStartTag opened name = some { opened := name :: opened } := by
    simp only [Reader.endStartTag, element, filled, Bool.not_true, Bool.false_eq_true, ↓reduceIte]
  exact Reader.read_append (Reader.read_append (read_startTag element fits opens) (inside _))
    (read_endTag element)

/-- The end of a line opens nothing. -/
theorem nests_lineBreak : Nests "<br>" := fun _ => rfl

end Html

end MarkdownSite
