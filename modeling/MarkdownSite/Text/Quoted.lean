import MarkdownSite.Text.Basic
import MarkdownSite.Unicode.HiddenTable

/-!
# Quoted text in messages

Messages show a text between quotes, with what cannot be printed written as an escape. Single
quotes are used unless the text has single quotes and no double ones.
-/

namespace MarkdownSite.Text

/-- The hexadecimal digits of a number, in lower case and at least `width` of them. -/
def hex (width n : Nat) : Text :=
  let digits := Nat.toDigits 16 n
  List.replicate (width - digits.length) '0' ++ digits

/-- Whether a character shows on paper: blanks other than the space, controls, format characters
and unassigned or private code points do not. -/
def isPrintable (c : Char) : Bool :=
  let n := c.toNat
  32 ≤ n && n != 127 && !Unicode.hiddenRanges.any fun (first, last) => first ≤ n && n ≤ last

/-- A character between quotes of the given kind. -/
def quotedChar (quote c : Char) : Text :=
  if c = quote ∨ c = '\\' then ['\\', c]
  else if c = '\n' then "\\n"
  else if c = '\r' then "\\r"
  else if c = '\t' then "\\t"
  else if isPrintable c then [c]
  else if c.toNat < 0x100 then "\\x" ++ hex 2 c.toNat
  else if c.toNat < 0x10000 then "\\u" ++ hex 4 c.toNat
  else "\\U" ++ hex 8 c.toNat

/-- The text between quotes. -/
def quoted (t : Text) : Text :=
  let quote := if List.contains t '\'' && !List.contains t '"' then '"' else '\''
  quote :: t.flatMap (quotedChar quote) ++ [quote]

end MarkdownSite.Text
