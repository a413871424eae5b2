import MarkdownSite.Log.Record
import MarkdownSite.Text.Markup
import MarkdownSite.Text.Quoted
import MarkdownSite.Text.Slug

/-!
# Heading ids

Every heading of a document has an id of its own. The first heading that asks for an id gets it;
each further one gets it with the least number from one on, after a hyphen, that makes it new. A
counter with each id remembers up to which number all are taken.
-/

namespace MarkdownSite

/-- The ids given out so far, each with the number to try first when it is asked for again. -/
structure HeadingIds where
  /-- The ids with their counters; each id stands once. -/
  counters : List (Text × Nat) := []
  deriving DecidableEq, Repr

namespace HeadingIds

/-- No id is given out. -/
def empty : HeadingIds := {}

/-- The counter of an id that is given out. -/
def counter? (ids : HeadingIds) (id : Text) : Option Nat := ids.counters.lookup id

/-- Whether an id is given out. -/
def contains (ids : HeadingIds) (id : Text) : Bool := (ids.counter? id).isSome

/-- How many ids are given out. -/
def size (ids : HeadingIds) : Nat := ids.counters.length

/-- The id with a number after it. -/
def numbered (id : Text) (n : Nat) : Text := id ++ '-' :: Text.ofNat n

/-- Sets the counter of an id. -/
def setCounter (ids : HeadingIds) (id : Text) (n : Nat) : HeadingIds :=
  if ids.contains id then
    { counters := ids.counters.map fun (key, k) => if key == id then (key, n) else (key, k) }
  else { counters := ids.counters ++ [(id, n)] }

/-- The least number from `n` on whose id is not given out, looking at `tries` numbers at most. As
many tries as there are ids are enough: they cannot all be among those given out and the next one
too. -/
def nextFree (ids : HeadingIds) (id : Text) (n : Nat) : (tries : Nat) → Nat
  | 0 => n
  | tries + 1 => if ids.contains (numbered id n) then nextFree ids id (n + 1) tries else n

/-- Gives out an id: the one asked for if it is new, else the same with a number. -/
def claim (ids : HeadingIds) (id : Text) : Text × HeadingIds :=
  match ids.counter? id with
  | none => (id, ids.setCounter id 1)
  | some start =>
    let n := ids.nextFree id start ids.size
    let unique := numbered id n
    (unique, (ids.setCounter id (n + 1)).setCounter unique 1)

end HeadingIds

/-! ## Ids from heading texts

The id of a heading is the slug of what a reader sees of it, made unique in the document. A heading
whose slug is empty has no id. -/

/-- The id that a heading asks for: the slug of its plain text. -/
def headingSlug (fragment : Text) (transform : Text.CaseTransform) : Text :=
  Text.slug transform (Text.plainText fragment)

namespace HeadingIds

/-- Gives out an id for a heading with the given content; `none` if its slug is empty. -/
def allocate (ids : HeadingIds) (fragment : Text) (transform : Text.CaseTransform) :
    Option Text × HeadingIds :=
  let slug := headingSlug fragment transform
  if slug.isEmpty then (none, ids)
  else
    let (unique, ids) := ids.claim slug
    (some unique, ids)

/-- What is reported when a heading gets another id than it asks for. -/
def reportRenamed (slug unique : Text) : Logged Unit :=
  if unique = slug then pure ()
  else debug .headings
    ("Heading id " ++ Text.quoted slug ++ " already used, allocated " ++ Text.quoted unique)

end HeadingIds

end MarkdownSite
