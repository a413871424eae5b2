import MarkdownSite.Text.Basic
import MarkdownSite.Unicode.CaseTable

/-!
# Upper and lower case

Full case mappings: a character may map to several, and a capital sigma at the end of a word maps
to the final form of the small letter.
-/

namespace MarkdownSite.Unicode

/-- Whether a character lies in one of the ranges. -/
def inRanges (ranges : List (Nat × Nat)) (c : Char) : Bool :=
  ranges.any fun (first, last) => first ≤ c.toNat && c.toNat ≤ last

/-- The row that maps a character, if there is one. -/
def CaseRange.covers (row : CaseRange) (n : Nat) : Bool :=
  row.first ≤ n && n ≤ row.last && (n - row.first) % row.step == 0

/-- A character under a case mapping: by its expansion, else by the row that covers it, else as
it is. -/
def mapCase (expansions : List (Nat × List Nat)) (ranges : List CaseRange) (c : Char) : Text :=
  match expansions.lookup c.toNat with
  | some codes => codes.map Char.ofNat
  | none =>
    match ranges.find? (·.covers c.toNat) with
    | some row => [Char.ofNat (Int.toNat (c.toNat + row.delta))]
    | none => [c]

/-- The upper case of one character. -/
def upperChar (c : Char) : Text :=
  if c.toNat < 128 then [c.toUpper] else mapCase upperExpansions upperRanges c

/-- The lower case of one character outside any word. -/
def lowerChar (c : Char) : Text :=
  if c.toNat < 128 then [c.toLower] else mapCase lowerExpansions lowerRanges c

/-- Whether the next character that is not skipped has case. -/
def nextIsCased (t : Text) : Bool :=
  match t.dropWhile (inRanges caseIgnorableRanges) with
  | c :: _ => inRanges casedRanges c
  | [] => false

/-- The lower case of a text that follows `before`, whose characters are nearest first. -/
def lowerFrom (before : Text) : Text → Text
  | [] => []
  | c :: t =>
    let lowered :=
      if c = 'Σ' then (if nextIsCased before && !nextIsCased t then ['ς'] else ['σ'])
      else lowerChar c
    lowered ++ lowerFrom (c :: before) t

/-- The lower case of a text. -/
def lower (t : Text) : Text := lowerFrom [] t

/-- The upper case of a text. -/
def upper (t : Text) : Text := t.flatMap upperChar

end MarkdownSite.Unicode
