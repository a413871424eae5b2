import MarkdownSite.Proofs.Text.Basic
import MarkdownSite.Text.Blank

/-!
# Fragments of HTML

A reader goes over any fragment of HTML: tags of any name with their attributes, comments, and text,
in which a `<` may stand that starts nothing. It keeps the elements that are open. Where it stands
depends on the characters alone, and the open elements matter only where a tag ends, so what it
makes of a piece is the same under other elements. What a script or a style holds is read like any
text.
-/

namespace MarkdownSite

open Text

namespace Fragment

/-! ## Reading -/

/-- The quotes around the value of an attribute. -/
inductive Quote where
  /-- Apostrophes. -/
  | single
  /-- Quotation marks. -/
  | double
  deriving DecidableEq, Repr

/-- The character that a quote is. -/
def Quote.char : Quote → Char
  | single => '\''
  | double => '"'

/-- Where in a fragment a reader stands. -/
inductive Position where
  /-- In text. -/
  | content
  /-- After a `<`. -/
  | tagStart
  /-- In the name of a start tag. -/
  | startName (name : Text)
  /-- After the name of a start tag. -/
  | inTag (name : Text)
  /-- In the value of an attribute. -/
  | value (name : Text) (quote : Quote)
  /-- In the name of an end tag. -/
  | endName (name : Text)
  /-- After the name of an end tag. -/
  | afterEndName (name : Text)
  /-- After `<!`. -/
  | declaration
  /-- After `<!-`. -/
  | commentStart
  /-- In a comment, after this many dashes. -/
  | comment (dashes : Nat)
  deriving DecidableEq, Repr

/-- The blanks of HTML, which end a name. -/
def isTagBlank (c : Char) : Bool := [' ', '\t', '\n', '\r', '\x0c'].contains c

/-- Where a reader stands after one more character, if this may stand there. A `<` in a tag may not,
nor may a declaration. -/
def Position.next? (position : Position) (c : Char) : Option Position :=
  match position with
  | .content => if c = '<' then some .tagStart else some .content
  | .tagStart =>
    if c = '/' then some (.endName [])
    else if c = '!' then some .declaration
    else if c.isAlpha then some (.startName [c.toLower])
    else if c = '<' then some .tagStart
    else some .content
  | .startName name =>
    if c = '>' then some .content
    else if c = '<' then none
    else if isTagBlank c || c == '/' then some (.inTag name)
    else some (.startName (name ++ [c.toLower]))
  | .inTag name =>
    if c = '>' then some .content
    else if c = '<' then none
    else if c = '"' then some (.value name .double)
    else if c = '\'' then some (.value name .single)
    else some (.inTag name)
  | .value name quote => if c = quote.char then some (.inTag name) else some (.value name quote)
  | .endName name =>
    if c = '>' then some .content
    else if c = '<' then none
    else if isTagBlank c || c == '/' then some (.afterEndName name)
    else some (.endName (name ++ [c.toLower]))
  | .afterEndName name =>
    if c = '>' then some .content
    else if c = '<' then none
    else some (.afterEndName name)
  | .declaration => if c = '-' then some .commentStart else none
  -- a `>` right after the dashes that start a comment ends it
  | .commentStart => if c = '-' then some (.comment 2) else none
  | .comment dashes =>
    if c = '-' then some (.comment (dashes + 1))
    else if c = '>' ∧ 2 ≤ dashes then some .content
    else some (.comment 0)

/-- A tag, with the name of its element. -/
inductive Tag where
  /-- It opens the element. -/
  | start (name : Text)
  /-- It closes the element. -/
  | stop (name : Text)
  deriving DecidableEq, Repr

/-- The tag that ends with a character. -/
def Position.tag? (position : Position) (c : Char) : Option Tag :=
  if c = '>' then
    match position with
    | .startName name | .inTag name => some (.start name)
    | .endName name | .afterEndName name => some (.stop name)
    | _ => none
  else none

/-- The elements without a content. -/
def voidElements : List Text :=
  ["area", "base", "br", "col", "embed", "hr", "img", "input", "link", "meta", "param", "source",
    "track", "wbr"]

/-- The elements that are open after a tag; an end tag has to close the innermost one. -/
def Tag.apply? : Tag → List Text → Option (List Text)
  | start name, opened => some (if voidElements.contains name then opened else name :: opened)
  | stop name, innermost :: others => if innermost = name then some others else none
  | stop _, [] => none

/-- The elements that are open after the tag that a character ends, or after no tag. -/
def openedAfter? (tag : Option Tag) (opened : List Text) : Option (List Text) :=
  match tag with
  | some tag => tag.apply? opened
  | none => some opened

/-- What a reader keeps: where it stands, and the elements that are open, innermost first. -/
@[ext]
structure Reader where
  /-- Where it stands. -/
  position : Position := .content
  /-- The elements that are open. -/
  opened : List Text := []
  deriving DecidableEq, Repr

/-- The reader after one more character, if this may stand there. -/
def Reader.step (r : Reader) (c : Char) : Option Reader := do
  let position ← r.position.next? c
  let opened ← openedAfter? (r.position.tag? c) r.opened
  return { position, opened }

/-- The reader after a piece of a fragment. -/
def Reader.read (r : Reader) (html : Text) : Option Reader := html.foldlM Reader.step r

/-- A fragment is well nested: a reader comes to its end, stands in text there, and every element
that was opened is closed. -/
def WellNested (html : Text) : Prop := Reader.read {} html = some {}

instance (html : Text) : Decidable (WellNested html) := decEq (Reader.read {} html) (some {})

namespace Reader

/-- A fragment in two pieces is read one after the other. -/
theorem read_append (r : Reader) (first second : Text) :
    r.read (first ++ second) = (r.read first).bind (read · second) :=
  List.foldlM_append

/-- One character is read in one step. -/
theorem read_cons (r : Reader) (c : Char) (rest : Text) :
    r.read (c :: rest) = (r.step c).bind (read · rest) :=
  List.foldlM_cons

/-- A piece is read in two parts exactly with a reader between them. -/
theorem read_append_eq_some {r last : Reader} {first second : Text} :
    r.read (first ++ second) = some last ↔
      ∃ middle, r.read first = some middle ∧ middle.read second = some last := by
  rw [read_append, Option.bind_eq_some_iff]

/-- A step moves the reader and keeps the elements that are open after a tag. -/
theorem step_eq_some {r s : Reader} {c : Char} :
    r.step c = some s ↔
      r.position.next? c = some s.position ∧
        openedAfter? (r.position.tag? c) r.opened = some s.opened := by
  simp only [step, Option.bind_eq_bind, Option.bind_eq_some_iff, Option.pure_def]
  constructor
  · rintro ⟨position, moved, opened, kept, same⟩
    cases same
    exact ⟨moved, kept⟩
  · rintro ⟨moved, kept⟩
    exact ⟨_, moved, _, kept, rfl⟩

end Reader

/-! ## The same piece under other elements -/

/-- Where a reader stands after a piece of a fragment. -/
def Position.read (position : Position) (html : Text) : Option Position :=
  html.foldlM Position.next? position

/-- Where a reader stands after two pieces. -/
theorem Position.read_append_eq_some {position last : Position} {first second : Text} :
    position.read (first ++ second) = some last ↔
      ∃ middle, position.read first = some middle ∧ middle.read second = some last := by
  rw [read, List.foldlM_append, Option.bind_eq_bind, Option.bind_eq_some_iff]
  rfl

/-- What is open after a tag tells what was open before it. -/
theorem openedAfter?_injective {tag : Option Tag} {opened others after : List Text}
    (one : openedAfter? tag opened = some after) (two : openedAfter? tag others = some after) :
    opened = others := by
  match tag, opened, others with
  | none, _, _ => exact (Option.some.inj one).trans (Option.some.inj two).symm
  | some (.start name), _, _ =>
    have same := Option.some.inj (one.trans two.symm)
    split at same
    · exact same
    · exact (List.cons.inj same).2
  | some (.stop name), first :: _, second :: _ =>
    simp only [openedAfter?, Tag.apply?, Option.ite_none_right_eq_some, Option.some.injEq]
      at one two
    obtain ⟨rfl, rfl⟩ := one
    obtain ⟨rfl, rfl⟩ := two
    rfl
  | some (.stop name), [], _ => cases one
  | some (.stop name), _ :: _, [] => cases two

/-- A tag does the same where further elements are open. -/
theorem openedAfter?_append {tag : Option Tag} {opened after : List Text}
    (one : openedAfter? tag opened = some after) (outer : List Text) :
    openedAfter? tag (opened ++ outer) = some (after ++ outer) := by
  match tag, opened with
  | none, _ =>
    cases one
    rfl
  | some (.start name), _ =>
    cases one
    simp only [openedAfter?, Tag.apply?]
    split <;> rfl
  | some (.stop name), innermost :: _ =>
    simp only [openedAfter?, Tag.apply?, Option.ite_none_right_eq_some, Option.some.injEq] at one
    obtain ⟨rfl, rfl⟩ := one
    simp only [openedAfter?, Tag.apply?, List.cons_append, ↓reduceIte]
  | some (.stop name), [] => cases one

namespace Reader

variable {r s : Reader} {html : Text}

/-- Where a reader stands depends on the characters alone. -/
theorem position_of_read (done : r.read html = some s) :
    r.position.read html = some s.position := by
  induction html generalizing r with
  | nil =>
    cases done
    rfl
  | cons c html ih =>
    rw [read_cons, Option.bind_eq_some_iff] at done
    obtain ⟨middle, stepped, others⟩ := done
    rw [Position.read, List.foldlM_cons, (step_eq_some.mp stepped).1]
    exact ih others

/-- Readers that stand at one place and come to the same end are the same. -/
theorem eq_of_read {other : Reader} (placed : r.position = other.position)
    (one : r.read html = some s) (two : other.read html = some s) : r = other := by
  induction html generalizing r other with
  | nil => exact (Option.some.inj one).trans (Option.some.inj two).symm
  | cons c html ih =>
    rw [read_cons, Option.bind_eq_some_iff] at one two
    obtain ⟨first, stepped, later⟩ := one
    obtain ⟨second, moved, others⟩ := two
    obtain ⟨went, kept⟩ := step_eq_some.mp stepped
    obtain ⟨goes, keeps⟩ := step_eq_some.mp moved
    rw [← placed] at goes keeps
    have same : first = second := ih (Option.some.inj (went.symm.trans goes)) later others
    rw [← same] at keeps
    exact Reader.ext placed (openedAfter?_injective kept keeps)

/-- A piece is read in the same way where further elements are open. -/
theorem read_outer (done : r.read html = some s) (outer : List Text) :
    read { r with opened := r.opened ++ outer } html =
      some { s with opened := s.opened ++ outer } := by
  induction html generalizing r with
  | nil =>
    cases done
    rfl
  | cons c html ih =>
    rw [read_cons, Option.bind_eq_some_iff] at done
    obtain ⟨middle, stepped, others⟩ := done
    obtain ⟨moved, kept⟩ := step_eq_some.mp stepped
    have next : step { r with opened := r.opened ++ outer } c =
        some { middle with opened := middle.opened ++ outer } :=
      step_eq_some.mpr ⟨moved, openedAfter?_append kept outer⟩
    rw [read_cons, next]
    exact ih others

/-- A well-nested fragment closes what it opens, whatever else is open. -/
theorem read_of_wellNested (nested : WellNested html) (opened : List Text) :
    read { opened } html = some { opened } :=
  read_outer nested opened

end Reader

/-! ## Where text may stand -/

namespace Position

/-- Any text may stand here: between tags, in a value or in a comment. -/
def TakesText : Position → Prop
  | content | tagStart | value _ _ | comment _ => True
  | _ => False

/-- Where a reader stands that has gone on in a text: a `<` starts no tag any more, and dashes end
no comment. -/
def settled : Position → Position
  | tagStart => content
  | comment _ => comment 0
  | position => position

variable {position after : Position}

/-- A reader that has gone on in a text still stands in it. -/
theorem TakesText.settled (text : position.TakesText) : position.settled.TakesText := by
  cases position <;> trivial

/-- A reader that has gone on in a text is not moved by going on. -/
theorem settled_settled (position : Position) : position.settled.settled = position.settled := by
  cases position <;> rfl

/-- A blank is no letter. -/
theorem isAlpha_of_isBlank {c : Char} (blank : isBlank c = true) : c.isAlpha = false := by
  simp only [isBlank, Bool.or_eq_true, Bool.and_eq_true, decide_eq_true_eq, beq_iff_eq] at blank
  rw [Bool.eq_false_iff]
  intro letter
  have range := range_of_isAlpha letter
  omega

/-- A blank goes on in a text. -/
theorem next?_blank (text : position.TakesText) {c : Char} (blank : isBlank c = true) :
    position.next? c = some position.settled := by
  have plain (mark : Char) (visible : isBlank mark = false) : c ≠ mark := by
    rintro rfl
    rw [blank] at visible
    cases visible
  match position with
  | .content => exact if_neg (plain '<' rfl)
  | .tagStart =>
    simp only [next?, plain '/' rfl, plain '!' rfl, plain '<' rfl, isAlpha_of_isBlank blank,
      Bool.false_eq_true, ↓reduceIte, settled]
  | .value name quote => exact if_neg (plain quote.char (by cases quote <;> rfl))
  | .comment dashes =>
    simp only [next?, plain '-' rfl, plain '>' rfl, false_and, ↓reduceIte, settled]

/-- A `<` stands where text may. -/
theorem takesText_of_next? (stepped : position.next? '<' = some after) : position.TakesText := by
  match position with
  | .content | .tagStart | .value _ _ | .comment _ => trivial

/-- A reader that every character of a piece leaves where it is stays there. -/
theorem read_of_stays {piece : Text} (stays : ∀ c ∈ piece, position.next? c = some position) :
    position.read piece = some position := by
  induction piece with
  | nil => rfl
  | cons c piece ih =>
    rw [read, List.foldlM_cons, stays c List.mem_cons_self]
    exact ih fun d member => stays d (List.mem_cons_of_mem c member)

/-- Tags without quotes or dashes, after which a reader stands in text again. -/
structure AreTags (piece : Text) : Prop where
  /-- A tag comes first. -/
  starts : ∃ rest, piece = '<' :: rest
  /-- They are read to their end. -/
  ends : content.read piece = some content
  /-- No value ends in them. -/
  unquoted : '\'' ∉ piece ∧ '"' ∉ piece
  /-- No comment ends in them. -/
  undashed : '-' ∉ piece

/-- Tags go on in a text. -/
theorem AreTags.read {tags : Text} (wellFormed : AreTags tags) (text : position.TakesText) :
    position.read tags = some position.settled := by
  obtain ⟨rest, rfl⟩ := wellFormed.starts
  match position with
  | .content => exact wellFormed.ends
  | .tagStart => exact wellFormed.ends
  | .value name quote =>
    have outside : quote.char ∉ '<' :: rest := by
      cases quote
      · exact wellFormed.unquoted.1
      · exact wellFormed.unquoted.2
    exact read_of_stays fun c member => if_neg (ne_of_mem_of_not_mem member outside)
  | .comment dashes =>
    have first : (comment dashes).next? '<' = some (comment 0) := by
      simp only [next?, Char.reduceEq, false_and, ↓reduceIte]
    rw [Position.read, List.foldlM_cons, first]
    refine read_of_stays fun c member => ?_
    have plain : c ≠ '-' := by
      rintro rfl
      exact wellFormed.undashed (List.mem_cons_of_mem _ member)
    have within : ¬(c = '>' ∧ 2 ≤ 0) := fun both => absurd both.2 (by decide)
    simp only [next?, plain, within, ↓reduceIte]

/-- Tags stand where text may, and only there. -/
theorem AreTags.read_eq_some_iff {tags : Text} (wellFormed : AreTags tags) :
    position.read tags = some after ↔ position.TakesText ∧ after = position.settled := by
  constructor
  · intro done
    obtain ⟨rest, rfl⟩ := wellFormed.starts
    have text : position.TakesText := by
      rw [Position.read, List.foldlM_cons] at done
      obtain ⟨next, stepped, -⟩ := Option.bind_eq_some_iff.mp done
      exact takesText_of_next? stepped
    exact ⟨text, Option.some.inj (done.symm.trans (wellFormed.read text))⟩
  · rintro ⟨text, rfl⟩
    exact wellFormed.read text

end Position

/-- A blank goes on in a text and ends no tag. -/
theorem Reader.step_blank {r : Reader} (text : r.position.TakesText) {c : Char}
    (blank : isBlank c = true) : r.step c = some { r with position := r.position.settled } := by
  have unended : r.position.tag? c = none := by
    refine if_neg ?_
    rintro rfl
    cases blank
  refine step_eq_some.mpr ⟨Position.next?_blank text blank, ?_⟩
  rw [unended]
  rfl

/-- Blanks leave a reader where it is that has gone on in a text. -/
theorem Reader.read_blanks {r : Reader} (text : r.position.TakesText)
    (gone : r.position.settled = r.position) {blanks : Text}
    (blank : ∀ c ∈ blanks, isBlank c = true) : r.read blanks = some r := by
  induction blanks with
  | nil => rfl
  | cons c blanks ih =>
    have first := step_blank text (blank c List.mem_cons_self)
    rw [gone] at first
    rw [read_cons, first]
    exact ih fun d member => blank d (List.mem_cons_of_mem c member)

end Fragment

end MarkdownSite
