import MarkdownSite.Unicode.Casing
import MarkdownSite.Unicode.CompatibilityTable
import MarkdownSite.Unicode.DecompositionTable
import MarkdownSite.Unicode.MarkTable

/-!
# Normalization

Decomposition into base characters and marks, the canonical order of marks, and composition. Both
directions are parametrized by the decompositions: host names are normalized by compatibility, which
replaces variants of a character, such as wide or circled letters, by the character itself.
-/

namespace MarkdownSite.Unicode

open Text

/-- The decompositions that a normalization form uses. -/
structure Decompositions where
  /-- The full decomposition of a character that has one. -/
  expand? : Char → Option Text
  /-- The character that two characters compose to, if any. -/
  compose? : Char → Char → Option Char

/-- The canonical combining class of a character. -/
def combiningClass (c : Char) : Nat :=
  if c.toNat < 0x300 then 0
  else
    match combiningRanges.find? fun (first, last, _) => first ≤ c.toNat && c.toNat ≤ last with
    | some (_, _, n) => n
    | none => 0

/-- Whether a character is a nonspacing mark. -/
def isNonspacing (c : Char) : Bool := 0x300 ≤ c.toNat && inRanges nonspacingRanges c

/-- Puts a mark of class `n` before the marks of higher class that follow. -/
def insertMark (c : Char) (n : Nat) : Text → Text
  | [] => [c]
  | d :: t =>
    let m := combiningClass d
    if m = 0 ∨ n ≤ m then c :: d :: t else d :: insertMark c n t

/-- Sorts each run of marks by class; marks of one class keep their order. -/
def orderMarks : Text → Text
  | [] => []
  | c :: t =>
    let n := combiningClass c
    let t := orderMarks t
    if n = 0 then c :: t else insertMark c n t

/-- The text with every character decomposed and the marks in canonical order. -/
def decompose (table : Decompositions) (t : Text) : Text :=
  orderMarks (t.flatMap fun c => (table.expand? c).getD [c])

/-- Composes the characters of `rest` with the starter before them. `marks` holds, last first, the
marks since the starter that did not compose, and `blocked` the class of the last of them. -/
def composeFrom (table : Decompositions) (starter : Char) (marks : Text) (blocked : Option Nat) :
    Text → Text
  | [] => starter :: marks.reverse
  | c :: rest =>
    let n := combiningClass c
    let free := match blocked with
      | none => true
      | some m => m < n && n != 0
    let composed := if free then table.compose? starter c else none
    match composed with
    | some whole => composeFrom table whole marks blocked rest
    | none =>
      if n = 0 then starter :: marks.reverse ++ composeFrom table c [] none rest
      else composeFrom table starter (c :: marks) (some n) rest

/-- Skips to the first starter and composes from there. -/
def composeAll (table : Decompositions) : Text → Text
  | [] => []
  | c :: rest =>
    if combiningClass c = 0 then composeFrom table c [] none rest
    else c :: composeAll table rest

/-- The text decomposed and composed again. -/
def normalize (table : Decompositions) (t : Text) : Text := composeAll table (decompose table t)

/-! ## Canonical decompositions -/

/-- The Hangul syllable of a number below 11172. -/
def hangulSyllable (n : Nat) : Char := Char.ofNat (0xAC00 + n)

/-- The jamo of a Hangul syllable. -/
def expandHangul? (c : Char) : Option Text :=
  let n := c.toNat - 0xAC00
  if 0xAC00 ≤ c.toNat ∧ c.toNat ≤ 0xD7A3 then
    let leading := Char.ofNat (0x1100 + n / 588)
    let vowel := Char.ofNat (0x1161 + n % 588 / 28)
    if n % 28 = 0 then some [leading, vowel]
    else some [leading, vowel, Char.ofNat (0x11A7 + n % 28)]
  else none

/-- The Hangul syllable that two jamo, or a syllable and a jamo, compose to. -/
def composeHangul? (a b : Char) : Option Char :=
  let l := a.toNat - 0x1100
  let v := b.toNat - 0x1161
  let s := a.toNat - 0xAC00
  if 0x1100 ≤ a.toNat ∧ a.toNat ≤ 0x1112 ∧ 0x1161 ≤ b.toNat ∧ b.toNat ≤ 0x1175 then
    some (hangulSyllable ((l * 21 + v) * 28))
  else if 0xAC00 ≤ a.toNat ∧ a.toNat ≤ 0xD7A3 ∧ s % 28 = 0 ∧ 0x11A8 ≤ b.toNat
      ∧ b.toNat ≤ 0x11C2 then
    some (hangulSyllable (s + (b.toNat - 0x11A7)))
  else none

/-- One entry of the table of canonical decompositions. -/
structure CanonicalEntry where
  /-- The character that decomposes. -/
  whole : Char
  /-- What it decomposes into in one step. -/
  parts : Text
  /-- Whether composition puts the parts together again. -/
  composes : Bool

/-- Reads one entry of the table. -/
def parseCanonicalEntry (entry : Text) : Option CanonicalEntry := do
  let isSign := fun c => c == '=' || c == ':'
  let whole := entry.takeWhile fun c => !isSign c
  let code ← toNatBase? 16 whole
  match entry.drop whole.length with
  | sign :: parts =>
    let codes ← (splitOn ' ' parts).mapM (toNatBase? 16)
    return ⟨Char.ofNat code, codes.map Char.ofNat, sign = '='⟩
  | [] => none

/-- The table of canonical decompositions. -/
def canonicalEntries : List CanonicalEntry :=
  (splitOn ';' decompositionSource).filterMap parseCanonicalEntry

/-- The entry of a character that the table decomposes. -/
def canonicalEntryFor? (c : Char) : Option CanonicalEntry := canonicalEntries.find? (·.whole = c)

/-- One step of decomposition, followed in the first part `fuel` times: only first parts decompose
further. -/
def expandBy (entryFor? : Char → Option CanonicalEntry) (fuel : Nat) (c : Char) : Text :=
  match fuel, entryFor? c with
  | fuel + 1, some entry =>
    match entry.parts with
    | first :: rest => expandBy entryFor? fuel first ++ rest
    | [] => []
  | _, _ => [c]

/-- The full canonical decomposition of a character. -/
def canonicalExpansion (c : Char) : Text :=
  if c.toNat < 0xC0 then [c]
  else (expandHangul? c).getD (expandBy canonicalEntryFor? 4 c)

/-- The canonical composition of two characters. -/
def canonicalComposition? (a b : Char) : Option Char :=
  if b.toNat < 0x300 then none
  else (composeHangul? a b).orElse fun _ =>
    (canonicalEntries.find? fun entry => entry.composes && entry.parts = [a, b]).map (·.whole)

/-- The canonical decompositions. -/
def canonical : Decompositions := ⟨fun c => some (canonicalExpansion c), canonicalComposition?⟩

/-! ## Compatibility decompositions -/

/-- Reads one entry of a table that maps a character to a text. -/
def parseMapping (entry : Text) : Option (Char × Text) := do
  let (whole, parts) ← splitFirst "=" entry
  let code ← toNatBase? 16 whole
  let codes ← (splitOn ' ' parts).mapM (toNatBase? 16)
  return (Char.ofNat code, codes.map Char.ofNat)

/-- The decompositions that are not canonical. -/
def compatibilityEntries : List (Char × Text) :=
  (splitOn ';' compatibilitySource).filterMap parseMapping

/-- The full compatibility decomposition of a character under version 3.2 of the standard. -/
def compatibilityExpansion (c : Char) : Text :=
  if c.toNat < 128 then [c]
  else
    match compatibilityEntries.lookup c with
    | some parts => parts
    | none => if inRanges laterDecompositions c then [c] else canonicalExpansion c

/-- The compatibility decompositions of version 3.2. Characters compose as they do today, also to
those that version 3.2 does not have. -/
def compatibility : Decompositions :=
  ⟨fun c => some (compatibilityExpansion c), canonicalComposition?⟩

end MarkdownSite.Unicode
