import MarkdownSite.Text.Blank

/-!
# HTML tags in documents

The forms of HTML that a document may hold as it is.
-/

namespace MarkdownSite.Markdown

open Text

/-- Whether a character is an ASCII letter or digit. -/
def isAsciiAlphanumeric (c : Char) : Bool := c.isAlpha || c.isDigit

/-- The name of a tag, and what follows it. -/
def tagName? (t : Text) : Option (Text × Text) :=
  match t with
  | c :: _ =>
    if c.isAlpha then
      let name := t.takeWhile fun d => isAsciiAlphanumeric d || d == '-'
      some (name, t.drop name.length)
    else none
  | [] => none

/-- What follows the value of an attribute. -/
def afterAttributeValue? (t : Text) : Option Text :=
  match t with
  | [] => none
  | quote :: inside =>
    if quote = '"' ∨ quote = '\'' then
      match inside.dropWhile (· != quote) with
      | _ :: rest => some rest
      | [] => none
    else
      let value := t.takeWhile fun c => !(isBlank c || c == '"' || c == '\'' || c == '='
        || c == '<' || c == '>' || c == '`')
      if value.isEmpty then none else some (t.drop value.length)

/-- What follows an attribute and the blanks before it. -/
def afterAttribute? (t : Text) : Option Text :=
  let start := t.dropWhile isBlank
  match start with
  | c :: rest =>
    if (start.length < t.length) && (c.isAlpha || c == '_' || c == ':') then
      let rest := rest.dropWhile fun d => isAsciiAlphanumeric d || d == '_' || d == '.' || d == ':'
        || d == '-'
      match rest.dropWhile isBlank with
      | '=' :: value => some ((afterAttributeValue? (value.dropWhile isBlank)).getD rest)
      | _ => some rest
    else none
  | [] => none

/-- What follows the attributes of a tag; `fuel` bounds their number. -/
def afterAttributes : (fuel : Nat) → Text → Text
  | 0, t => t
  | fuel + 1, t =>
    match afterAttribute? t with
    | some rest => afterAttributes fuel rest
    | none => t

/-- What follows an opening tag, after its `<`. -/
def afterOpenTag? (t : Text) : Option Text := do
  let (_, rest) ← tagName? t
  match (afterAttributes rest.length rest).dropWhile isBlank with
  | '>' :: after => return after
  | '/' :: '>' :: after => return after
  | _ => none

/-- What follows a closing tag, after its `</`. -/
def afterCloseTag? (t : Text) : Option Text := do
  let (_, rest) ← tagName? t
  match rest.dropWhile isBlank with
  | '>' :: after => return after
  | _ => none

/-- What follows the first `close` on the line that a text starts with, if at least `least`
characters are before it. -/
def afterOnLine? (close : Text) : (least : Nat) → Text → Option Text
  | _, [] => none
  | least + 1, c :: t => if c = '\n' then none else afterOnLine? close least t
  | 0, c :: t =>
    match dropPrefix? close (c :: t) with
    | some rest => some rest
    | none => if c = '\n' then none else afterOnLine? close 0 t

/-- What follows a comment, after its `<!--`. A comment has some text, does not start with `>` or
`->`, and has no two hyphens before its end. -/
def afterComment? (t : Text) : Option Text := do
  if startsWith ">" t || startsWith "->" t then none
  let (inside, rest) ← splitFirst "--" t
  match rest with
  | '>' :: after => if inside.isEmpty || List.elem '\n' inside then none else return after
  | _ => none

/-- What follows the HTML that a text starts with, after its `<`: a tag, a comment, an instruction,
a declaration or a section of character data. -/
def afterHtml? (t : Text) : Option Text :=
  match t with
  | '/' :: rest => afterCloseTag? rest
  | '?' :: rest => afterOnLine? "?>" 1 rest
  | '!' :: '-' :: '-' :: rest => afterComment? rest
  | '!' :: '[' :: 'C' :: 'D' :: 'A' :: 'T' :: 'A' :: rest => afterOnLine? "]]>" 1 rest
  | '!' :: c :: rest => if c.isUpper then afterOnLine? ">" 1 rest else none
  | _ => afterOpenTag? t

/-- The HTML that a text starts with, after its `<`, and what follows it. -/
def html? (t : Text) : Option (Text × Text) :=
  (afterHtml? t).map fun rest => ('<' :: t.take (t.length - rest.length), rest)

end MarkdownSite.Markdown
