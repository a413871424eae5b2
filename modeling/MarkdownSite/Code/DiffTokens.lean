import MarkdownSite.Code.Span

/-!
# Tokens of differences between files

The first characters of a line tell what it is: added, removed, changed, a heading or common to
both files. A last line without a line feed is taken for none of these.
-/

namespace MarkdownSite.Code

open Text

/-- What follows digits at the start of a text, if there are any. -/
def afterDigits? (t : Text) : Option Text :=
  if t.takeWhile Char.isDigit = [] then none else some (t.dropWhile Char.isDigit)

/-- What follows a comma and digits, or the text itself without them. -/
def skipRangeEnd (t : Text) : Text :=
  match t with
  | ',' :: rest => (afterDigits? rest).getD t
  | _ => t

/-- Whether a line says where lines were added, changed or deleted: `1a2`, `3,4c5,6`. The number
before the letter has one digit. -/
def isPlace (line : Text) : Bool :=
  match line with
  | d :: rest =>
    if d.isDigit then
      match skipRangeEnd rest with
      | c :: more =>
        (c == 'a' || c == 'c' || c == 'd')
          && ((afterDigits? more).map skipRangeEnd == some [])
      | [] => false
    else false
  | [] => false

/-- The tokens of a line, given without its line feed. -/
def lineTokens (line : Text) : List Token :=
  let starts (start : Text) : Bool := startsWith start line
  match line with
  | ' ' :: rest => [⟨.blank, [' ']⟩, ⟨.plain, rest⟩]
  | _ =>
    if starts "!" ∨ line = String.toList "---" then [⟨.changed, line⟩]
    else if starts "< " ∨ starts "-" then [⟨.deleted, line⟩]
    else if starts "> " ∨ starts "+" then [⟨.inserted, line⟩]
    else if starts "@" ∨ isPlace line then [⟨.subheading, line⟩]
    else if starts "Index" ∨ starts "index" ∨ starts "diff" ∨ starts "=" then [⟨.heading, line⟩]
    else [⟨.plain, line⟩]

/-- The tokens of lines; the last one ended without a line feed. -/
def linesTokens : List Text → List Token
  | [] => []
  | [last] => [⟨.wrong, last⟩]
  | line :: rest => lineTokens line ++ ⟨.blank, ['\n']⟩ :: linesTokens rest

/-- The tokens of differences between files. -/
def diffTokens (code : Text) : List Token := linesTokens (splitOn '\n' code)

end MarkdownSite.Code
