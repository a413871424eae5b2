import MarkdownSite.Text.Blank
import MarkdownSite.Text.Entity
import MarkdownSite.Text.Escape

/-!
# Plain text from markup

What a reader of an HTML fragment sees of it: the text without the tags, its references decoded,
and the same text written so that it may stand in an attribute.
-/

namespace MarkdownSite.Text

/-- What follows the first `>` of a text, if there is one. -/
def afterTagEnd? : Text → Option Text
  | [] => none
  | c :: t => if c = '>' then some t else afterTagEnd? t

theorem length_lt_of_afterTagEnd? {t rest : Text} (h : afterTagEnd? t = some rest) :
    rest.length < t.length := by
  induction t with
  | nil => simp [afterTagEnd?] at h
  | cons c t ih =>
    rw [afterTagEnd?] at h
    split at h
    · cases h; simp
    · have := ih h; simp only [List.length_cons]; omega

/-- Removes each `<` together with all that follows up to the next `>`; a `<` that no `>` follows
stays. -/
def stripTags : Text → Text
  | [] => []
  | c :: t =>
    if c = '<' then
      match _h : afterTagEnd? t with
      | some rest => stripTags rest
      | none => c :: stripTags t
    else c :: stripTags t
termination_by t => t.length
decreasing_by
  · have := length_lt_of_afterTagEnd? _h; simp only [List.length_cons]; omega
  all_goals simp

/-- What follows the first `-->` on the line that a text starts with, if it stands there. -/
def afterCommentEnd? : Text → Option Text
  | [] => none
  | '-' :: '-' :: '>' :: t => some t
  | c :: t => if c = '\n' then none else afterCommentEnd? t

/-- The value of a quoted `alt` that comes next, and what follows its tag. -/
def altHere? (t : Text) : Option (Text × Text) :=
  match dropPrefix? "alt=" t with
  | some (quote :: inside) =>
    if quote = '"' ∨ quote = '\'' then
      match inside.dropWhile (· != quote) with
      | _ :: after => (afterTagEnd? after).map (inside.takeWhile (· != quote), ·)
      | [] => none
    else none
  | _ => none

/-- The value of the first quoted `alt` after a blank in a tag, and what follows the tag. -/
def findAlt? : Text → Option (Text × Text)
  | [] => none
  | c :: t =>
    if c = '>' then none
    else
      match if isBlank c then altHere? t else none with
      | some found => some found
      | none => findAlt? t

/-- What stays of the markup that a `<` before the text starts, and what follows it: a comment on
one line and a tag leave nothing, but the tag of an image leaves its description. -/
def markupHere? (t : Text) : Option (Text × Text) :=
  let comment := (dropPrefix? "!--" t).bind afterCommentEnd?
  let image := (dropPrefix? "img" t).bind fun rest =>
    if rest.head?.any isBlank then findAlt? rest else none
  match comment, image with
  | some rest, _ => some ([], rest)
  | none, some found => some found
  | none, none => (afterTagEnd? t).map ([], ·)

/-- Removes markup after `skip` characters that belong to markup removed before. -/
def describeFrom : (skip : Nat) → Text → Text
  | _, [] => []
  | skip + 1, _ :: t => describeFrom skip t
  | 0, c :: t =>
    match if c = '<' then markupHere? t else none with
    | some (kept, rest) => kept ++ describeFrom (t.length - rest.length) t
    | none => c :: describeFrom 0 t

/-- A fragment as the description of an image: without comments and tags, and with the
descriptions of images inside. -/
def imageDescription (fragment : Text) : Text := describeFrom 0 fragment

/-- The text of a fragment, written so that it may stand in an attribute. -/
def attributeText (fragment : Text) : Text := escapeAttribute (decodeEntities (stripTags fragment))

/-- The text of a fragment without the blanks around it. -/
def plainText (fragment : Text) : Text := trim (decodeEntities (stripTags fragment))

end MarkdownSite.Text
