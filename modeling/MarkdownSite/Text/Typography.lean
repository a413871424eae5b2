import MarkdownSite.Text.Blank

/-!
# Typographic punctuation

Straight quotes become opening or closing glyphs, two and three hyphens become dashes, and three
full stops become an ellipsis. A quote opens at the start of the text and after a blank, a dash, a
slash or an opening bracket; every other quote closes.
-/

namespace MarkdownSite.Text

/-- The glyphs for quotes. -/
structure Quotes where
  /-- Opens a double quotation. -/
  openDouble : Char
  /-- Closes a double quotation. -/
  closeDouble : Char
  /-- Opens a single quotation. -/
  openSingle : Char
  /-- Closes a single quotation, and stands for an apostrophe. -/
  closeSingle : Char
  deriving DecidableEq, Repr

namespace Quotes

/-- The glyphs of English typography. -/
def standard : Quotes := ⟨'“', '”', '‘', '’'⟩

/-- The four glyphs in the order in which options name them. -/
def toText (q : Quotes) : Text := [q.openDouble, q.closeDouble, q.openSingle, q.closeSingle]

/-- Glyphs from a text of exactly four characters. -/
def ofText? : Text → Option Quotes
  | [a, b, c, d] => some ⟨a, b, c, d⟩
  | _ => none

end Quotes

/-- After these characters either kind of quote opens. -/
def opensAfter (c : Char) : Bool :=
  c == '-' || c == '—' || c == '/' || c == '(' || c == '[' || c == '{' || isBlank c

/-- Replaces `quote` by `glyph` after a character that satisfies `before`. A quote so replaced
does not itself count as the character before another. -/
def openQuotesFrom (before : Char → Bool) (quote glyph : Char) : Text → Text
  | c :: d :: t =>
    if before c ∧ d = quote then c :: glyph :: openQuotesFrom before quote glyph t
    else c :: openQuotesFrom before quote glyph (d :: t)
  | t => t

/-- Replaces `quote` by `glyph` at the start of the text and after a character that satisfies
`before`. -/
def openQuotes (before : Char → Bool) (quote glyph : Char) : Text → Text
  | c :: t =>
    if c = quote then glyph :: openQuotesFrom before quote glyph t
    else openQuotesFrom before quote glyph (c :: t)
  | [] => []

/-- The text with typographic punctuation. -/
def smarten (q : Quotes) (t : Text) : Text :=
  let t := replace "--" "–" (replace "---" "—" t)
  let t := openQuotes (fun c => opensAfter c || c == '"') '\'' q.openSingle t
  let t := replaceChar '\'' q.closeSingle t
  let t := openQuotes (fun c => opensAfter c || c == q.openSingle) '"' q.openDouble t
  let t := replaceChar '"' q.closeDouble t
  replace "..." "…" t

end MarkdownSite.Text
