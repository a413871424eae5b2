import MarkdownSite.Text.EntityTable
import MarkdownSite.Text.Basic

/-!
# Character references

Reading of `&name;`, `&#123;` and `&#x7b;`. Documents as browsers read them may leave out the
semicolon; Markdown wants it. A reference that names nothing stays as it is written.
-/

namespace MarkdownSite.Text

/-- One entry of the table of names. -/
def parseEntity (entry : Text) : Option (Text × Text) := do
  let (name, value) ← splitFirst "=" entry
  let codes ← (splitOn ' ' value).mapM (toNatBase? 16)
  let name := if endsWith "." name then name.dropLast ++ [';'] else name
  return (name, codes.map Char.ofNat)

/-- The names of references, each with the characters it stands for. -/
def namedEntities : List (Text × Text) :=
  entityLines.flatMap fun (line : String) => (splitOn ';' line).filterMap parseEntity

/-- The characters that a name stands for; the name is given with its semicolon, if it has one. -/
def namedEntity? (name : Text) : Option Text := namedEntities.lookup name

/-- What the code points 128 to 159 stand for when a reference gives them by number. -/
def windowsCodes : List Nat :=
  [0x20AC, 0x81, 0x201A, 0x192, 0x201E, 0x2026, 0x2020, 0x2021, 0x2C6, 0x2030, 0x160, 0x2039,
    0x152, 0x8D, 0x17D, 0x8F, 0x90, 0x2018, 0x2019, 0x201C, 0x201D, 0x2022, 0x2013, 0x2014, 0x2DC,
    0x2122, 0x161, 0x203A, 0x153, 0x9D, 0x17E, 0x178]

/-- Control characters and noncharacters, which a reference by number cannot give. -/
def isInvalidCode (n : Nat) : Bool :=
  (1 ≤ n && n ≤ 8) || (0xE ≤ n && n ≤ 0x1F) || (0x7F ≤ n && n ≤ 0x9F)
    || (0xFDD0 ≤ n && n ≤ 0xFDEF) || n == 0xB || n % 0x10000 == 0xFFFE || n % 0x10000 == 0xFFFF

/-- The text that a reference by number stands for. -/
def numberedEntity (n : Nat) : Text :=
  if n = 0 then ['\uFFFD']
  else if n = 0x0D then ['\r']
  else if 0x80 ≤ n ∧ n ≤ 0x9F then [Char.ofNat ((windowsCodes[n - 0x80]?).getD n)]
  else if (0xD800 ≤ n ∧ n ≤ 0xDFFF) ∨ n > 0x10FFFF then ['\uFFFD']
  else if isInvalidCode n then []
  else [Char.ofNat n]

/-- The longest part of a name, cut at its end, that is a name of its own, and what is cut off.
Names of one character are not tried. -/
def longestEntity? (name : Text) : (length : Nat) → Option (Text × Text)
  | 0 => none
  | 1 => none
  | n + 2 =>
    match namedEntity? (name.take (n + 2)) with
    | some value => some (value, name.drop (n + 2))
    | none => longestEntity? name (n + 1)

/-- What a reference by name stands for; the name is given without the ampersand and with its
semicolon, if it has one. -/
def decodeName (name : Text) : Text :=
  match namedEntity? name with
  | some value => value
  | none =>
    match longestEntity? name (name.length - 1) with
    | some (value, rest) => value ++ rest
    | none => '&' :: name

/-- Whether a character may stand in the name of a reference. -/
def isEntityNameChar (c : Char) : Bool :=
  !(c == '\t' || c == '\n' || c == '\x0c' || c == ' ' || c == '<' || c == '&' || c == '#'
    || c == ';')

/-- Where the semicolon of a reference may be left out, and how many digits it may have. -/
structure ReferenceForm where
  /-- Whether a reference must end with a semicolon. -/
  semicolonRequired : Bool
  /-- Most decimal digits of a reference by number, if there is a limit. -/
  maxDigits : Option Nat
  /-- Most hexadecimal digits of a reference by number, if there is a limit. -/
  maxHexDigits : Option Nat

/-- References as browsers read them. -/
def browserReferences : ReferenceForm := ⟨false, none, none⟩

/-- References as Markdown reads them. -/
def markdownReferences : ReferenceForm := ⟨true, some 7, some 6⟩

/-- The end of a reference: its semicolon, where one stands; `none` if one must and does not. -/
def ReferenceForm.close (form : ReferenceForm) : Text → Option (Bool × Text)
  | ';' :: rest => some (true, rest)
  | rest => if form.semicolonRequired then none else some (false, rest)

/-- A reference by number: digits of the given base, then the end. -/
def ReferenceForm.number? (form : ReferenceForm) (base : Nat) (limit : Option Nat) (t : Text) :
    Option (Text × Text) := do
  let isDigit := fun c => match hexDigit? c with | some d => d < base | none => false
  let digits := t.takeWhile isDigit
  let n ← toNatBase? base digits
  if let some most := limit then
    if digits.length > most then none
  let (_, rest) ← form.close (t.drop digits.length)
  return (numberedEntity n, rest)

/-- The reference that `t`, the text after an ampersand, starts with: what it stands for, and the
text after it. -/
def ReferenceForm.read? (form : ReferenceForm) (t : Text) : Option (Text × Text) :=
  match t with
  | '#' :: x :: rest =>
    if x = 'x' ∨ x = 'X' then form.number? 16 form.maxHexDigits rest
    else form.number? 10 form.maxDigits (x :: rest)
  | _ => do
    let name := (t.takeWhile isEntityNameChar).take 32
    if name.isEmpty then none
    let (closed, rest) ← form.close (t.drop name.length)
    return (decodeName (if closed then name ++ [';'] else name), rest)

/-- Replaces the references in a text; `fuel` bounds the number of characters that are read. -/
def ReferenceForm.decodeFrom (form : ReferenceForm) : (fuel : Nat) → Text → Text
  | 0, t => t
  | _, [] => []
  | fuel + 1, c :: t =>
    if c = '&' then
      match form.read? t with
      | some (value, rest) => value ++ form.decodeFrom fuel rest
      | none => c :: form.decodeFrom fuel t
    else c :: form.decodeFrom fuel t

/-- Replaces each reference in a text by the characters it stands for. -/
def ReferenceForm.decode (form : ReferenceForm) (t : Text) : Text := form.decodeFrom t.length t

/-- Replaces each reference by the characters it stands for, as browsers do. -/
def decodeEntities (t : Text) : Text := browserReferences.decode t

/-- Replaces each reference by the characters it stands for, as Markdown does. -/
def decodeStrictEntities (t : Text) : Text := markdownReferences.decode t

end MarkdownSite.Text
