import MarkdownSite.Text.Basic

/-!
# Blanks

The characters that separate words: the white space of Unicode together with the four separators
among the ASCII control characters. The narrower sets that single formats use are named here too.
-/

namespace MarkdownSite.Text

/-- White space in any script, and the information separators U+001C to U+001F. -/
def isBlank (c : Char) : Bool :=
  let n := c.toNat
  (9 ≤ n && n ≤ 13) || (28 ≤ n && n ≤ 32) || n == 0x85 || n == 0xA0 || n == 0x1680
    || (0x2000 ≤ n && n ≤ 0x200A) || n == 0x2028 || n == 0x2029 || n == 0x202F || n == 0x205F
    || n == 0x3000

/-- Space or tab, the blanks that can stand inside a line. -/
def isSpaceTab (c : Char) : Bool := c == ' ' || c == '\t'

/-- The six ASCII white space characters. -/
def isAsciiBlank (c : Char) : Bool := c == ' ' || (9 ≤ c.toNat && c.toNat ≤ 13)

/-- Drops the blanks at both ends. -/
def trim (t : Text) : Text := stripWhere isBlank t

/-- Drops the blanks at the end. -/
def trimEnd (t : Text) : Text := stripEndWhere isBlank t

/-- The runs of characters between blanks. -/
def words (t : Text) : List Text := (splitWhere isBlank t).filter fun piece => !piece.isEmpty

/-- The boundaries at which a text splits into lines: the line feed, the carriage return alone or
with a line feed, and the other vertical separators of Unicode. -/
def isLineBoundary (c : Char) : Bool :=
  let n := c.toNat
  (10 ≤ n && n ≤ 13) || (28 ≤ n && n ≤ 30) || n == 0x85 || n == 0x2028 || n == 0x2029

/-- The lines of a text without their ends; a final line end starts no further line. -/
def lines : Text → List Text
  | [] => []
  | '\r' :: '\n' :: t => [] :: lines t
  | c :: t =>
    if isLineBoundary c then [] :: lines t
    else
      match lines t with
      | [] => [[c]]
      | line :: rest =>
        -- a boundary right after `c` ends the line that `c` opens
        (c :: line) :: rest

end MarkdownSite.Text
