import MarkdownSite.Text.Blank
import MarkdownSite.Text.Entity

/-!
# Character references as they are written

The sanitizer keeps character references as they are written. It tells them from ampersands that
stand for themselves by their form: a reference ends with a semicolon, and what it names is a
number or begins the name of a character.
-/

namespace MarkdownSite.Sanitizer

open Text

/-- Whether a character ends what may be a reference. -/
def endsReference (c : Char) : Bool :=
  c == '<' || c == '&' || c == '=' || c == ';' || isAsciiBlank c

/-- Whether some character has a name that begins so. -/
def beginsName (t : Text) : Bool := namedEntities.any fun (name, _) => startsWith t name

/-- The reference by number that a text after `&#` starts with; the digits may be followed by one
character that is none. -/
def numberReference? (t : Text) : Option Text :=
  let (mark, t) : Text × Text := match t with
    | c :: rest => if c = 'x' ∨ c = 'X' then ([c], rest) else ([], t)
    | [] => ([], [])
  let isDigit (c : Char) : Bool :=
    match hexDigit? c with
    | some d => d < if mark.isEmpty then 10 else 16
    | none => false
  let digits := t.takeWhile isDigit
  let after := match t.drop digits.length with
    | c :: rest => if endsReference c then c :: rest else rest
    | [] => []
  if after.head? = some ';' then some ('#' :: mark ++ digits) else none

/-- The reference by name that a text after an ampersand starts with. -/
def nameReference? (t : Text) : Option Text :=
  let name := t.takeWhile fun c => !endsReference c
  if !name.isEmpty && (t.drop name.length).head? == some ';' && beginsName name then some name
  else none

/-- The reference that a text after an ampersand starts with, and what follows it. -/
def reference? (t : Text) : Option (Text × Text) :=
  let name := match t with
    | '#' :: rest => numberReference? rest
    | t => nameReference? t
  name.map fun name => (name, t.drop (name.length + 1))

/-- The character that a reference stands for. A name must be one that browsers know without a
semicolon. -/
def referenceValue? (name : Text) : Option Text :=
  match name with
  | '#' :: rest =>
    let number := match rest with
      | c :: digits => if c = 'x' ∨ c = 'X' then toNatBase? 16 digits else toNatBase? 10 rest
      | [] => none
    number.bind fun n => if 0 < n ∧ n < 0x110000 then some [Char.ofNat n] else none
  | name => namedEntity? name

/-- A text cut at its ampersands: what precedes the first one, and what follows each. -/
def splitAmpersands (t : Text) : Text × List Text :=
  match splitOn '&' t with
  | first :: rest => (first, rest)
  | [] => ([], [])

/-- Replaces each reference by the character it stands for, or by nothing if it stands for none. -/
def replaceReferences (t : Text) : Text :=
  let (first, parts) := splitAmpersands t
  first ++ parts.flatMap fun part =>
    match reference? part with
    | some (name, rest) => (referenceValue? name).getD [] ++ rest
    | none => '&' :: part

end MarkdownSite.Sanitizer
