import MarkdownSite.Markdown.Line

/-!
# How blocks start

The forms of a line that starts a heading, a break, a fence, a quote, a list item or indented code.
`limit` is the number of spaces that may stand before it.
-/

namespace MarkdownSite.Markdown

open Text

/-- The most spaces that may stand before a block. -/
def blockIndent : Nat := 3

/-- The leading run of a character, and what follows. -/
def leadingRun (c : Char) (t : Text) : Nat × Text :=
  ((t.takeWhile (· == c)).length, t.dropWhile (· == c))

/-- The text of a heading without the number signs that close it. -/
def dropClosingSigns (t : Text) : Text :=
  let before := stripEndWhere (· == '#') t
  if before.getLast?.all isBlank then trimEnd before else t

/-- A heading that number signs start: its level and its text. -/
def atxHeading? (limit : Nat) (line : Text) : Option (Nat × Text) := do
  let (level, rest) := leadingRun '#' (← dropIndent? limit line)
  if level = 0 ∨ level > 6 then none
  if rest.all isSpaceTab || rest.head?.any isSpaceTab then
    return (level, dropClosingSigns (trim rest))
  none

/-- The level of the heading that a line makes of the paragraph above it. -/
def setextLevel? (line : Text) : Option Nat := do
  let rest ← dropIndent? blockIndent line
  let bar := rest.takeWhile fun c => c == '=' || c == '-'
  let last ← bar.getLast?
  if (rest.drop bar.length).all isSpaceTab then return if last = '=' then 1 else 2
  none

/-- Whether a line is a thematic break: three or more of the same mark. -/
def isThematicBreak (limit : Nat) (line : Text) : Bool :=
  match dropIndent? limit line with
  | some (c :: rest) =>
    let marks := (c :: rest).filter fun d => !isSpaceTab d
    (c == '-' || c == '_' || c == '*') && marks.length ≥ 3 && marks.all (· == c)
  | _ => false

/-- The opening fence of a code block. -/
structure Fence where
  /-- How many spaces stand before it. -/
  indent : Nat
  /-- Its character. -/
  mark : Char
  /-- How often it stands. -/
  length : Nat
  /-- What follows it on the line. -/
  info : Text
  deriving DecidableEq, Repr

/-- The fence that a line is. What follows a fence of backticks has none. -/
def fence? (limit : Nat) (line : Text) : Option Fence := do
  let rest ← dropIndent? limit line
  let mark ← rest.head?
  let (length, after) := leadingRun mark rest
  let info := after.dropWhile isSpaceTab
  if (mark = '`' ∨ mark = '~') ∧ length ≥ 3 ∧ ¬(mark = '`' ∧ info.contains '`') then
    return { indent := indentOf line, mark, length, info }
  none

/-- Whether a line closes a fenced code block. -/
def Fence.isClosedBy (fence : Fence) (line : Text) : Bool :=
  match dropIndent? blockIndent line with
  | some rest =>
    let (length, after) := leadingRun fence.mark rest
    length ≥ fence.length && after.all isSpaceTab
  | none => false

/-- What follows the mark of a quote. -/
def quoted? (limit : Nat) (line : Text) : Option Text := do
  match ← dropIndent? limit line with
  | '>' :: rest => return rest
  | _ => none

/-- Whether a line is indented code. -/
def isIndentedCode (line : Text) : Bool :=
  match line with
  | ' ' :: ' ' :: ' ' :: ' ' :: rest => !rest.isEmpty
  | _ =>
    match line.dropWhile (· == ' ') with
    | '\t' :: rest => !rest.isEmpty
    | _ => false

/-- The start of a list item. -/
structure ListMarker where
  /-- How many spaces stand before it. -/
  indent : Nat
  /-- The mark: a bullet, or digits with a full stop or a parenthesis. -/
  mark : Text
  /-- What tells the lists of neighbouring items apart: the last character of the mark. -/
  bullet : Char
  /-- The number of an item of an ordered list. -/
  number : Option Nat
  /-- What follows on the line. -/
  text : Text
  deriving DecidableEq, Repr

/-- The mark that a text starts with, its number, and what follows. -/
def splitListMark? (t : Text) : Option (Text × Option Nat × Text) :=
  let digits := t.takeWhile Char.isDigit
  match digits, t.drop digits.length with
  | [], c :: rest =>
    if c = '*' ∨ c = '+' ∨ c = '-' then some ([c], none, rest) else none
  | digits, c :: rest =>
    if digits.length ≤ 9 ∧ (c = '.' ∨ c = ')') then
      some (digits ++ [c], toNatBase? 10 digits, rest)
    else none
  | _, [] => none

/-- The list item that a line starts. -/
def listMarker? (limit : Nat) (line : Text) : Option ListMarker := do
  let (mark, number, text) ← splitListMark? (← dropIndent? limit line)
  if text.isEmpty || text.head?.any isSpaceTab then
    return { indent := indentOf line, mark, bullet := mark.getLast?.getD '-', number, text }
  none

end MarkdownSite.Markdown
