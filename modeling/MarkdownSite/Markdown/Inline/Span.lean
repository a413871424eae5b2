import MarkdownSite.Markdown.BlockStart
import MarkdownSite.Markdown.LinkParts
import MarkdownSite.Markdown.Inline.Basic

/-!
# Spans

Code spans and the stretches of text that extensions set off: where they end.
-/

namespace MarkdownSite.Markdown

open Text

/-- The text up to the end of the first run of exactly `count` characters `mark`, and what follows;
`run` characters of a run have been read. -/
def throughRun (mark : Char) (count : Nat) : (run : Nat) → Text → Option (Text × Text)
  | run, [] => if run = count then some ([], []) else none
  | run, c :: t =>
    if c = mark then
      (throughRun mark count (run + 1) t).map fun (inside, rest) => (c :: inside, rest)
    else if run = count then some ([], c :: t)
    else (throughRun mark count 0 t).map fun (inside, rest) => (c :: inside, rest)

/-- The code of a span: line ends are spaces, and one space goes from each end unless there is
nothing else. -/
def spanCode (inside : Text) : Text :=
  let code := replaceChar '\n' ' ' inside
  if code.head? = some ' ' ∧ code.getLast? = some ' ' ∧ ¬code.all isBlank then
    (code.drop 1).dropLast
  else code

/-- A code span, and what follows it. Backticks that close nothing are text. -/
def codeSpan? (t : Text) : Option (Inline × Text) :=
  let (count, rest) := leadingRun '`' t
  if count = 0 then none
  else
    match throughRun '`' count 0 rest with
    | some (inside, after) => some (.code (spanCode (inside.take (inside.length - count))), after)
    | none => some (.text (List.replicate count '`'), rest)

/-- Whether a text goes on with text that two marks can set off. -/
def opensDouble (mark : Char) (t : Text) : Bool := t.head?.any fun c => !isBlank c && c != mark

/-- The text up to two marks that follow a character which is neither a blank nor the mark, or an
escaped mark, and are not followed by a third; and what follows them. -/
def throughDouble (mark : Char) : Text → Option (Text × Text)
  | [] => none
  | c :: t =>
    let closes (t : Text) : Option Text :=
      (dropPrefix? [mark, mark] t).filter fun rest => rest.head? != some mark
    let escaped : Option Text :=
      if c = '\\' then (dropPrefix? [mark] t).bind closes else none
    match escaped, if isBlank c || c == mark then none else closes t with
    | some rest, _ => some ([c, mark], rest)
    | none, some rest => some ([c], rest)
    | none, none => (throughDouble mark t).map fun (inside, rest) => (c :: inside, rest)

/-- The text between two single marks, which has no blanks but escaped spaces; `started` says that
it has a character. -/
def throughSingle (mark : Char) (started : Bool) : Text → Option (Text × Text)
  | [] => none
  | '\\' :: c :: t =>
    if c = mark ∨ c = ' ' then
      (throughSingle mark true t).map fun (inside, rest) => ('\\' :: c :: inside, rest)
    else (throughSingle mark true (c :: t)).map fun (inside, rest) => ('\\' :: inside, rest)
  | c :: t =>
    if started && c == mark then some ([], t)
    else if isBlank c then none
    else (throughSingle mark true t).map fun (inside, rest) => (c :: inside, rest)

/-- The text between two single marks, of which the first starts `t`, and what follows. Escaped
spaces are spaces. -/
def singleSpan? (mark : Char) (t : Text) : Option (Text × Text) := do
  let (inside, rest) ← throughSingle mark false (← dropPrefix? [mark] t)
  return (replace "\\ " " " inside, rest)

/-- What follows a break at which a line ends, when there is one here: a backslash or two spaces
before the line feed, or nothing where each line end breaks. -/
def afterLineBreak? (hard : Bool) (t : Text) : Option Text :=
  match t with
  | '\\' :: '\n' :: rest => some (rest.dropWhile isBlank)
  | '\n' :: rest => if hard then some (rest.dropWhile isBlank) else none
  | _ =>
    let (spaces, rest) := leadingRun ' ' t
    match rest with
    | '\n' :: rest => if spaces ≥ 2 then some (rest.dropWhile isBlank) else none
    | _ => none

/-- What follows a line end that does not break the line. -/
def afterSoftBreak? (t : Text) : Option Text :=
  match (leadingRun ' ' t).2 with
  | '\n' :: rest => some (rest.dropWhile isBlank)
  | _ => none

/-- The characters that backslashes make ordinary, as many as stand in a row, and what follows. -/
def escapedRun : Text → Text × Text
  | '\\' :: c :: t =>
    if isAsciiPunctuation c then
      let (run, rest) := escapedRun t
      (c :: run, rest)
    else ([], '\\' :: c :: t)
  | t => ([], t)

end MarkdownSite.Markdown
