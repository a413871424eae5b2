import MarkdownSite.Text.Blank
import MarkdownSite.Unicode.Casing

/-!
# The parts of links

Labels, destinations and titles, as they are written in links and in the definitions of link
references.
-/

namespace MarkdownSite.Markdown

open Text

/-- The ASCII punctuation, which a backslash makes ordinary. -/
def isAsciiPunctuation (c : Char) : Bool :=
  ('!' ≤ c && c ≤ '/') || (':' ≤ c && c ≤ '@') || ('[' ≤ c && c ≤ '`') || ('{' ≤ c && c ≤ '~')

/-- The text without the backslashes before punctuation. -/
def unescape : Text → Text
  | '\\' :: c :: t => if isAsciiPunctuation c then c :: unescape t else '\\' :: unescape (c :: t)
  | c :: t => c :: unescape t
  | [] => []

/-- The text before the first unescaped character that satisfies `stop`, and the text from it
on. -/
def splitUnescaped (stop : Char → Bool) : Text → Text × Text
  | [] => ([], [])
  | '\\' :: c :: t =>
    let (before, after) := splitUnescaped stop t
    ('\\' :: c :: before, after)
  | c :: t =>
    if stop c then ([], c :: t)
    else
      let (before, after) := splitUnescaped stop t
      (c :: before, after)

/-- How many characters a label has, an escaped one counting once. -/
def labelLength : Text → Nat
  | '\\' :: _ :: t => labelLength t + 1
  | _ :: t => labelLength t + 1
  | [] => 0

/-- Whether a text may be a label: not too long, and without brackets that are not escaped. -/
def isLabel (t : Text) : Bool :=
  labelLength t ≤ 500 && (splitUnescaped (fun c => c == '[' || c == ']') t).2.isEmpty

/-- What the labels of one reference have in common: letter case and the amount of white space do
not matter. -/
def labelKey (label : Text) : Text := Unicode.upper (Unicode.lower (join " " (words label)))

/-- The label that a text after an opening bracket starts with, and what follows the closing
one. -/
def label? (t : Text) : Option (Text × Text) :=
  let (label, rest) := splitUnescaped (fun c => c == '[' || c == ']') t
  match rest with
  | ']' :: after => if labelLength label ≤ 500 then some (label, after) else none
  | _ => none

/-- Drops spaces and tabs with at most one line feed among them. -/
def dropBlanksWithinLines (t : Text) : Text :=
  match t.dropWhile isSpaceTab with
  | '\n' :: rest => rest.dropWhile isSpaceTab
  | rest => rest

/-- A destination in angle brackets, which may hold spaces. -/
def bracketedDestination? (t : Text) : Option (Text × Text) :=
  let (inside, rest) := splitUnescaped (fun c => c == '<' || c == '>' || c == '\n') t
  match rest with
  | '>' :: after => some (inside, after)
  | _ => none

/-- A destination up to a blank or to a closing parenthesis that none before it opens; `depth`
counts the open ones. -/
def bareDestination (depth : Nat) : Text → Text × Text
  | [] => ([], [])
  | '\\' :: c :: t =>
    if isAsciiPunctuation c then
      let (inside, rest) := bareDestination depth t
      ('\\' :: c :: inside, rest)
    else
      let (inside, rest) := bareDestination depth (c :: t)
      ('\\' :: inside, rest)
  | c :: t =>
    if isAsciiBlank c then ([], c :: t)
    else if c = ')' then
      match depth with
      | 0 => ([], c :: t)
      | depth + 1 =>
        let (inside, rest) := bareDestination depth t
        (c :: inside, rest)
    else
      let (inside, rest) := bareDestination (if c = '(' then depth + 1 else depth) t
      (c :: inside, rest)

/-- A title in double quotes, single quotes or parentheses, and what follows it. -/
def title? (t : Text) : Option (Text × Text) :=
  match t with
  | c :: t =>
    let close? : Option Char :=
      if c = '"' then some '"' else if c = '\'' then some '\'' else if c = '(' then some ')'
      else none
    match close? with
    | some close =>
      let (inside, rest) := splitUnescaped (fun d => d == close || (c == '(' && d == '(')) t
      match rest with
      | d :: after => if d = close then some (unescape inside, after) else none
      | [] => none
    | none => none
  | [] => none

end MarkdownSite.Markdown
