import MarkdownSite.Text.Blank

/-!
# Lines

Blocks are recognised line by line. A line is a text without the line feed that ends it. Up to
three spaces before the start of a block do not count.
-/

namespace MarkdownSite.Markdown

open Text

/-- The lines of a document: the three kinds of line ends are one, and a last line without an end
counts. -/
def documentLines (t : Text) : List Text :=
  let t := replaceChar '\r' '\n' (replace "\r\n" "\n" t)
  splitOn '\n' ((dropSuffix? "\n" t).getD t)

/-- Whether a line has nothing but blanks. -/
def isBlankLine (line : Text) : Bool :=
  line.all fun c => c == ' ' || c == '\t' || c == '\x0b' || c == '\x0c'

/-- How many spaces a line starts with. -/
def indentOf (line : Text) : Nat := (line.takeWhile (· == ' ')).length

/-- The line without the spaces before it, if there are at most `limit`. -/
def dropIndent? (limit : Nat) (line : Text) : Option Text :=
  if indentOf line ≤ limit then some (line.dropWhile (· == ' ')) else none

/-- The line without the spaces before it, at most `count` of them. -/
def dropSpaces : (count : Nat) → Text → Text
  | n + 1, ' ' :: line => dropSpaces n line
  | _, line => line

/-- The spaces in place of a tab that has `before` spaces in front, given the width of a stop. -/
def expandTabWith (width : Nat → Nat) (line : Text) : Text :=
  let before := indentOf line
  match line.drop before with
  | '\t' :: rest => if before ≤ 3 then List.replicate (before + width before) ' ' ++ rest else line
  | _ => line

/-- A tab at the start of a line as spaces up to the next stop, where stops are `width` apart. -/
def expandLeadingTab (width : Nat) (line : Text) : Text :=
  expandTabWith (fun before => width - before) line

/-- A tab at the start of a line as four spaces. -/
def expandTab (line : Text) : Text := expandTabWith (fun _ => 4) line

/-- The lines without the blank ones at the end. -/
def dropBlankEnd (lines : List Text) : List Text :=
  (lines.reverse.dropWhile isBlankLine).reverse

/-- The lines as a text in which each has its line feed. -/
def unlines (lines : List Text) : Text := lines.flatMap fun line => line ++ ['\n']

end MarkdownSite.Markdown
