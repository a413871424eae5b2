import MarkdownSite.Proofs.Node.Nested
import MarkdownSite.Sanitizer.Policy

/-!
# HTML whose names a policy allows

A reader goes over HTML once and looks at the names of elements and attributes. It takes attributes
in double quotes or without a value, and stops at a name that the policy does not allow and wherever
it cannot tell what is a name.
-/

namespace MarkdownSite.Sanitizer

open Text Html

/-- A character that the name of an element or an attribute may have. -/
def isNameChar (c : Char) : Bool := c.isLower || c.isDigit || c == '-'

/-- A text that may be the name of an attribute or go on in that of an element. -/
def IsName (name : Text) : Prop := name.all isNameChar = true

instance (name : Text) : Decidable (IsName name) :=
  inferInstanceAs (Decidable (name.all isNameChar = true))

/-- The name of an element: a letter starts it. -/
def IsTagName (tag : Text) : Prop := tag.head?.any Char.isLower = true ∧ IsName tag

instance (tag : Text) : Decidable (IsTagName tag) :=
  inferInstanceAs (Decidable (tag.head?.any Char.isLower = true ∧ IsName tag))

/-- A name that begins with a character goes on as a name. -/
theorem isName_cons (c : Char) (rest : Text) :
    IsName (c :: rest) ↔ isNameChar c = true ∧ IsName rest := by
  rw [IsName, List.all_cons, Bool.and_eq_true, IsName]

namespace Policy

/-- Where a reader stands after one more character, if the names so far are allowed. -/
def step (policy : Policy) (position : Position) (c : Char) : Option Position :=
  match position with
  | .content => some (if c = '<' then .tagStart else .content)
  | .tagStart =>
    if c = '/' then some (.endName [])
    else if c.isLower then some (.startName [c])
    else none
  | .startName tag =>
    if c = '>' then if policy.tags.contains tag then some .content else none
    else if c = ' ' then if policy.tags.contains tag then some (.attributeName tag []) else none
    else if isNameChar c then some (.startName (tag ++ [c]))
    else none
  | .endName tag =>
    if c = '>' then if policy.tags.contains tag then some .content else none
    else if isNameChar c then some (.endName (tag ++ [c]))
    else none
  | .attributeName tag name =>
    if c = '=' then if policy.allowsAttribute tag name then some (.equals tag) else none
    else if c = '>' then if policy.allowsAttribute tag name then some .content else none
    -- the slash at the end of an empty element stands where a name could start
    else if c = '/' then if name = [] then some (.afterValue tag) else none
    else if isNameChar c then some (.attributeName tag (name ++ [c]))
    else none
  | .equals tag => if c = '"' then some (.value tag) else none
  | .value tag => some (if c = '"' then .afterValue tag else .value tag)
  | .afterValue tag =>
    if c = '>' then some .content
    else if c = ' ' then some (.attributeName tag [])
    else none

/-- Where a reader stands after a piece of HTML. -/
def read (policy : Policy) (position : Position) (html : Text) : Option Position :=
  html.foldlM policy.step position

/-- Every name of an element in the HTML is allowed, and every name of an attribute is allowed on
its element. -/
def Covers (policy : Policy) (html : Text) : Prop := policy.read .content html = some .content

instance (policy : Policy) (html : Text) : Decidable (policy.Covers html) :=
  decEq (policy.read .content html) (some .content)

variable {policy : Policy} {position : Position}

/-! ## Reading -/

/-- HTML in two pieces is read one after the other. -/
theorem read_append (first second : Text) :
    policy.read position (first ++ second) =
      (policy.read position first).bind (policy.read · second) :=
  List.foldlM_append

/-- One character is read in one step. -/
theorem read_cons (c : Char) (rest : Text) :
    policy.read position (c :: rest) = (policy.step position c).bind (policy.read · rest) :=
  List.foldlM_cons

/-- A reader goes on after a piece. -/
theorem read_append_of {middle : Position} {first : Text}
    (one : policy.read position first = some middle) (second : Text) :
    policy.read position (first ++ second) = policy.read middle second := by
  rw [read_append, one, Option.bind_some]

/-- A reader goes on after a character. -/
theorem read_cons_of {middle : Position} {c : Char}
    (one : policy.step position c = some middle) (rest : Text) :
    policy.read position (c :: rest) = policy.read middle rest := by
  rw [read_cons, one, Option.bind_some]

/-- A reader that every character of a piece leaves where it is stays there. -/
theorem read_of_stays {html : Text} (stays : ∀ c ∈ html, policy.step position c = some position) :
    policy.read position html = some position := by
  induction html with
  | nil => rfl
  | cons c html ih =>
    rw [read_cons_of (stays c List.mem_cons_self)]
    exact ih fun d member => stays d (List.mem_cons_of_mem c member)

/-- A name is read to its end by a reader that keeps its characters one by one. -/
theorem read_name {keeping : Text → Position}
    (kept : ∀ before c, isNameChar c = true →
      policy.step (keeping before) c = some (keeping (before ++ [c])))
    {name : Text} (named : IsName name) (before : Text) :
    policy.read (keeping before) name = some (keeping (before ++ name)) := by
  induction name generalizing before with
  | nil =>
    rw [List.append_nil]
    rfl
  | cons c name ih =>
    obtain ⟨first, others⟩ := (isName_cons c name).mp named
    rw [read_cons_of (kept before c first), ih others, List.append_assoc]
    rfl

/-- No character of a name ends it. -/
theorem ne_of_isNameChar {c stop : Char} (named : isNameChar c = true)
    (other : isNameChar stop = false) : c ≠ stop := by
  rintro rfl
  rw [named] at other
  cases other

/-- A reader keeps the characters of the name of a start tag. -/
theorem step_startName (before : Text) (c : Char) (named : isNameChar c = true) :
    policy.step (.startName before) c = some (.startName (before ++ [c])) := by
  have closes : c ≠ '>' := ne_of_isNameChar named rfl
  have blank : c ≠ ' ' := ne_of_isNameChar named rfl
  simp only [step, closes, blank, named, ↓reduceIte]

/-- A reader keeps the characters of the name of an end tag. -/
theorem step_endName (before : Text) (c : Char) (named : isNameChar c = true) :
    policy.step (.endName before) c = some (.endName (before ++ [c])) := by
  have closes : c ≠ '>' := ne_of_isNameChar named rfl
  simp only [step, closes, named, ↓reduceIte]

/-- A reader keeps the characters of the name of an attribute. -/
theorem step_attributeName (tag before : Text) (c : Char) (named : isNameChar c = true) :
    policy.step (.attributeName tag before) c = some (.attributeName tag (before ++ [c])) := by
  have equals : c ≠ '=' := ne_of_isNameChar named rfl
  have closes : c ≠ '>' := ne_of_isNameChar named rfl
  have slash : c ≠ '/' := ne_of_isNameChar named rfl
  simp only [step, equals, closes, slash, named, ↓reduceIte]

/-- Text that opens no tag is read between tags. -/
theorem read_content {t : Text} (plain : '<' ∉ t) : policy.read .content t = some .content := by
  refine read_of_stays fun c member => ?_
  have other : c ≠ '<' := fun same => plain (same ▸ member)
  simp only [step, other, ↓reduceIte]

/-- Text without double quotes is read in the value of an attribute. -/
theorem read_value {t : Text} (quoted : '"' ∉ t) (tag : Text) :
    policy.read (.value tag) t = some (.value tag) := by
  refine read_of_stays fun c member => ?_
  have other : c ≠ '"' := fun same => quoted (same ▸ member)
  simp only [step, other, ↓reduceIte]

/-- A reader stands where any text may stand: between tags or in the value of an attribute. -/
def TakesText (position : Position) : Prop := position = .content ∨ ∃ tag, position = .value tag

/-- A character that may stand in a tag, outside of the values of its attributes. -/
def isTagChar (c : Char) : Bool := isNameChar c || List.elem c ("/>= \"" : Text)

/-- A reader that takes another character than those of tags stands where any text may stand. -/
theorem takesText_of_step {c : Char} {next : Position} (foreign : isTagChar c = false)
    (stepped : policy.step position c = some next) : TakesText position := by
  rw [isTagChar, Bool.or_eq_false_iff] at foreign
  obtain ⟨unnamed, others⟩ := foreign
  have marks : c ≠ '/' ∧ c ≠ '>' ∧ c ≠ '=' ∧ c ≠ ' ' ∧ c ≠ '"' := by simpa using others
  obtain ⟨slash, closes, equals, blank, quote⟩ := marks
  have lower : c.isLower = false := by
    rw [isNameChar, Bool.or_eq_false_iff, Bool.or_eq_false_iff] at unnamed
    exact unnamed.1.1
  cases position with
  | content => exact .inl rfl
  | value tag => exact .inr ⟨tag, rfl⟩
  | tagStart | startName | endName | attributeName | equals | afterValue =>
    simp [step, slash, closes, equals, blank, quote, lower, unnamed] at stepped

/-- Text that opens no tag and has no quote is read where any text may stand. -/
theorem read_text (text : TakesText position) {t : Text} (plain : '<' ∉ t) (quoted : '"' ∉ t) :
    policy.read position t = some position := by
  rcases text with rfl | ⟨tag, rfl⟩
  · exact read_content plain
  · exact read_value quoted tag

/-- A reader that comes to the end of a text whose last character stands neither in tags nor at
their start stands where any text may stand. -/
theorem takesText_of_last {t : Text} {c : Char} {last : Position} (foreign : isTagChar c = false)
    (plain : c ≠ '<') (reads : policy.read position (t ++ [c]) = some last) : TakesText last := by
  rw [read_append, Option.bind_eq_some_iff] at reads
  obtain ⟨middle, -, stepped⟩ := reads
  cases next : policy.step middle c with
  | none =>
    rw [read_cons, next] at stepped
    cases stepped
  | some after =>
    have text := takesText_of_step foreign next
    have quoted : c ≠ '"' := by
      rintro rfl
      cases foreign
    rw [read_text text (by simpa using Ne.symm plain) (by simpa using Ne.symm quoted)] at stepped
    cases stepped
    exact text

/-! ## Tags -/

/-- Attributes that a policy allows on an element, whose values stay in double quotes. -/
def Fits (policy : Policy) (tag : Text) (attributes : List (Text × Text)) : Prop :=
  ∀ pair ∈ attributes, IsName pair.1 ∧ policy.allowsAttribute tag pair.1 = true ∧ '"' ∉ pair.2

/-- No attributes fit every element. -/
theorem fits_nil (policy : Policy) (tag : Text) : policy.Fits tag [] := by simp [Fits]

variable {tag : Text}

/-- Attributes that fit do so one after another. -/
theorem Fits.append {first second : List (Text × Text)} (one : policy.Fits tag first)
    (two : policy.Fits tag second) : policy.Fits tag (first ++ second) := by
  intro pair member
  rcases List.mem_append.mp member with inside | inside
  · exact one pair inside
  · exact two pair inside

/-- One attribute fits if its name is allowed and its value stays in its quotes. -/
theorem fits_singleton {name value : Text}
    (named : IsName name ∧ policy.allowsAttribute tag name = true)
    (quoted : '"' ∉ value) : policy.Fits tag [(name, value)] := by
  intro pair member
  rw [List.mem_singleton.mp member]
  exact ⟨named.1, named.2, quoted⟩

/-- An attribute that may be left out fits if it does when it is there. -/
theorem fits_attributeIf {present : Bool} {name value : Text}
    (fits : policy.Fits tag [(name, value)]) :
    policy.Fits tag (attributeIf present name value) := by
  cases present with
  | true => exact fits
  | false => exact fits_nil policy tag

/-- An attribute that is allowed is read in its tag. -/
theorem read_attributeHtml (known : tag ∈ policy.tags) (inside : position.InTag tag)
    {name value : Text} (named : IsName name)
    (allowed : policy.allowsAttribute tag name = true) (quoted : '"' ∉ value) :
    policy.read position (attributeHtml name value) = some (.afterValue tag) := by
  have blank : policy.step position ' ' = some (.attributeName tag []) := by
    rcases inside with rfl | rfl
    · simp only [step, List.contains_iff_mem.mpr known, ↓reduceIte]
      rfl
    · rfl
  have equals : policy.step (.attributeName tag name) '=' = some (.equals tag) := by
    simp only [step, allowed, ↓reduceIte]
  have written : attributeHtml name value =
      ' ' :: (name ++ '=' :: '"' :: (value ++ ['"'])) := by
    simp [attributeHtml]
  rw [written, read_cons_of blank,
    read_append_of (read_name (step_attributeName tag) named []),
    List.nil_append, read_cons_of equals, read_cons_of rfl, read_append_of (read_value quoted tag)]
  rfl

/-- Attributes that fit are read in their tag. -/
theorem read_attributesHtml (known : tag ∈ policy.tags) {attributes : List (Text × Text)}
    (fits : policy.Fits tag attributes) (inside : position.InTag tag) :
    ∃ after : Position, after.InTag tag ∧
      policy.read position (attributesHtml attributes) = some after := by
  induction attributes generalizing position with
  | nil => exact ⟨position, inside, rfl⟩
  | cons first others ih =>
    obtain ⟨named, allowed, quoted⟩ := fits first List.mem_cons_self
    obtain ⟨after, inTag, rest⟩ := ih (fun pair member => fits pair (List.mem_cons_of_mem _ member))
      (.inr rfl)
    refine ⟨after, inTag, ?_⟩
    change policy.read position (attributeHtml first.1 first.2 ++ attributesHtml others) = _
    rw [read_append_of (read_attributeHtml known inside named allowed quoted), rest]

/-- A start tag is read to its end. -/
theorem covers_startTag (known : tag ∈ policy.tags) (named : IsTagName tag)
    {attributes : List (Text × Text)} (fits : policy.Fits tag attributes) :
    policy.Covers (startTag tag attributes) := by
  obtain ⟨letter, nameChars⟩ := named
  cases tag with
  | nil => cases letter
  | cons c rest =>
    have first : c.isLower = true := letter
    have slash : c ≠ '/' := fun same => by
      rw [same] at first
      cases first
    have begun : policy.step .tagStart c = some (.startName [c]) := by
      simp only [step, slash, first, ↓reduceIte]
    have afterName : Position.InTag (c :: rest) (.startName (c :: rest)) := .inl rfl
    obtain ⟨position, inside, attributed⟩ := read_attributesHtml known fits afterName
    have closed : policy.step position '>' = some .content := by
      rcases inside with rfl | rfl
      · simp only [step, List.contains_iff_mem.mpr known, ↓reduceIte]
      · rfl
    have written : startTag (c :: rest) attributes =
        '<' :: c :: (rest ++ (attributesHtml attributes ++ ['>'])) := by
      simp [startTag]
    have opens : policy.step .content '<' = some .tagStart := rfl
    rw [Covers, written, read_cons_of opens, read_cons_of begun,
      read_append_of (read_name step_startName ((isName_cons c rest).mp nameChars).2 [c]),
      List.singleton_append, read_append_of attributed, read_cons_of closed]
    rfl

/-- An end tag is read to its end. -/
theorem covers_endTag (known : tag ∈ policy.tags) (named : IsTagName tag) :
    policy.Covers (endTag tag) := by
  have opens : policy.step .content '<' = some .tagStart := rfl
  have slash : policy.step .tagStart '/' = some (.endName []) := rfl
  have closed : policy.step (.endName tag) '>' = some .content := by
    simp only [step, List.contains_iff_mem.mpr known, ↓reduceIte]
  have written : endTag tag = '<' :: '/' :: (tag ++ ['>']) := by
    simp [endTag]
  rw [Covers, written, read_cons_of opens, read_cons_of slash,
    read_append_of (read_name step_endName named.2 []), List.nil_append, read_cons_of closed]
  rfl

/-! ## Pieces of HTML -/

/-- Text that opens no tag is covered. -/
theorem covers_of_plain {t : Text} (plain : '<' ∉ t) : policy.Covers t := read_content plain

/-- Text that stays in its quotes is covered. -/
theorem covers_of_unmarked {t : Text} (unmarked : Unmarked t) : policy.Covers t :=
  covers_of_plain fun member => absurd (unmarked '<' member) (by decide)

/-- Covered pieces one after another are covered. -/
theorem Covers.append {first second : Text} (one : policy.Covers first)
    (two : policy.Covers second) : policy.Covers (first ++ second) :=
  (read_append_of one second).trans two

/-- A reader between tags comes to the end of a piece of HTML, and stands between tags again, under
a condition; else it stops inside. -/
structure CoversIf (policy : Policy) (condition : Prop) (html : Text) : Prop where
  /-- Under the condition the piece is read. -/
  covers : condition → policy.Covers html
  /-- Else the reader stops. -/
  stops : ¬condition → policy.read .content html = none

variable {condition : Prop} {html : Text}

/-- A piece that is covered under a condition is covered only then. -/
theorem CoversIf.covers_iff (piece : policy.CoversIf condition html) :
    policy.Covers html ↔ condition := by
  refine ⟨fun covered => ?_, piece.covers⟩
  by_contra other
  cases covered.symm.trans (piece.stops other)

/-- A condition may be said in another way. -/
theorem CoversIf.congr (piece : policy.CoversIf condition html) {other : Prop}
    (same : condition ↔ other) : policy.CoversIf other html :=
  ⟨fun holds => piece.covers (same.mpr holds), fun fails => piece.stops (mt same.mp fails)⟩

/-- A piece that is covered is so under every condition that holds. -/
theorem Covers.coversIf (covered : policy.Covers html) (holds : condition) :
    policy.CoversIf condition html := ⟨fun _ => covered, fun fails => absurd holds fails⟩

/-- A reader either stops in a piece or comes to its end between tags. -/
theorem CoversIf.read_cases (piece : policy.CoversIf condition html) :
    policy.read .content html = none ∨ policy.read .content html = some .content := by
  by_cases holds : condition
  · exact .inr (piece.covers holds)
  · exact .inl (piece.stops holds)

/-- A piece that is read like another one is covered under the same condition. -/
theorem CoversIf.of_read (piece : policy.CoversIf condition html) {other : Text}
    (same : policy.read .content other = policy.read .content html) :
    policy.CoversIf condition other :=
  ⟨fun holds => same.trans (piece.covers holds), fun fails => same.trans (piece.stops fails)⟩

/-- Two pieces one after another are covered if both are. -/
theorem CoversIf.append (first : policy.CoversIf condition html) {other : Prop} {rest : Text}
    (second : policy.CoversIf other rest) : policy.CoversIf (condition ∧ other) (html ++ rest) where
  covers holds := (read_append_of (first.covers holds.1) rest).trans (second.covers holds.2)
  stops fails := by
    by_cases holds : condition
    · exact (read_append_of (first.covers holds) rest).trans
        (second.stops fun also => fails ⟨holds, also⟩)
    · rw [read_append, first.stops holds, Option.bind_none]

/-- What follows a covered piece decides whether both together are covered. -/
theorem Covers.coversIf_append_iff {before : Text} (covered : policy.Covers before) :
    policy.CoversIf condition (before ++ html) ↔ policy.CoversIf condition html := by
  have same : policy.read .content (before ++ html) = policy.read .content html :=
    read_append_of covered html
  exact ⟨fun piece => piece.of_read same.symm, fun piece => piece.of_read same⟩

/-- A covered piece after another one changes nothing. -/
theorem CoversIf.followed (piece : policy.CoversIf condition html) {after : Text}
    (closes : policy.Covers after) : policy.CoversIf condition (html ++ after) :=
  (piece.append (closes.coversIf True.intro)).congr (and_iff_left True.intro)

/-- A piece between covered ones decides whether all together are covered. -/
theorem CoversIf.between (piece : policy.CoversIf condition html) {before after : Text}
    (opens : policy.Covers before) (closes : policy.Covers after) :
    policy.CoversIf condition (before ++ html ++ after) :=
  (opens.coversIf_append_iff.mpr piece).followed closes

/-- The content of an element that is allowed decides whether the element is covered. -/
theorem CoversIf.element (content : policy.CoversIf condition html) (known : tag ∈ policy.tags)
    (named : IsTagName tag) {attributes : List (Text × Text)}
    (fits : policy.Fits tag attributes) :
    policy.CoversIf condition (startTag tag attributes ++ html ++ endTag tag) :=
  content.between (covers_startTag known named fits) (covers_endTag known named)

/-- The names of the elements that are allowed by default are names. -/
theorem isTagName_standard : ∀ tag ∈ standard.tags, IsTagName tag := by decide

/-- The content of an element that is allowed by default decides whether the element is covered. -/
theorem CoversIf.elementHtml (content : standard.CoversIf condition html)
    (known : tag ∈ standard.tags) : standard.CoversIf condition (elementHtml tag html) := by
  rw [elementHtml_eq]
  exact content.element known (isTagName_standard tag known) (fits_nil standard tag)

end Policy

end MarkdownSite.Sanitizer
