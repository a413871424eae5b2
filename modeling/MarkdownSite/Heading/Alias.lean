import MarkdownSite.Text.Blank

/-!
# Headings that name another place

A heading whose whole content is one link into the document may take its id from the target of the
link. The link is recognised in the rendered content of the heading.
-/

namespace MarkdownSite.Heading

open Text

/-- The content of a heading, cut around the target of the link that it is. -/
structure AliasLink where
  /-- What precedes the target, up to the number sign. -/
  before : Text
  /-- The target. -/
  target : Text
  /-- What follows the target. -/
  after : Text
  deriving DecidableEq, Repr

/-- A character that a quoted target may have. -/
def isTargetChar (c : Char) : Bool := c != '<' && c != '>' && !isQuote c
where
  /-- A quote of either kind. -/
  isQuote (c : Char) : Bool := c == '"' || c == '\''

/-- The target of a link into the document, if a blank and its `href` come next. -/
def hrefHere? (t : Text) : Option AliasLink :=
  match t with
  | blank :: rest =>
    if isBlank blank then
      match dropPrefix? "href=" rest with
      | some (quote :: '#' :: rest) =>
        let target := rest.takeWhile isTargetChar
        match rest.dropWhile isTargetChar with
        | closing :: after =>
          if isTargetChar.isQuote quote && isTargetChar.isQuote closing && !target.isEmpty then
            some ⟨blank :: "href=" ++ [quote, '#'], target, closing :: after⟩
          else none
        | [] => none
      | _ => none
    else none
  | [] => none

/-- The first target of a link into the document among the attributes of a tag. -/
def findHref? : Text → Option AliasLink
  | [] => none
  | c :: t =>
    match hrefHere? (c :: t) with
    | some link => some link
    | none => (findHref? t).map fun link => { link with before := c :: link.before }

/-- The target among the attributes of a tag. One that stands after other attributes is preferred
to one that comes first. -/
def hrefOf? (attributes : Text) : Option AliasLink :=
  match attributes with
  | c :: t =>
    if isBlank c then
      match findHref? t with
      | some link => some { link with before := c :: link.before }
      | none => hrefHere? attributes
    else none
  | [] => none

/-- Whether what follows the opening tag of a link is its content and its closing tag; a line feed
may follow. -/
def endsLink (t : Text) : Bool :=
  match splitFirst "</a>" t with
  | some (_, rest) => rest.isEmpty || rest == ['\n']
  | none => false

/-- The link that the content of a heading is, if it is one link into the document. -/
def aliasLink? (content : Text) : Option AliasLink := do
  let rest ← dropPrefix? "<a" content
  let attributes := rest.takeWhile fun c => c != '<' && c != '>'
  match rest.drop attributes.length with
  | '>' :: inside =>
    let link ← hrefOf? attributes
    if endsLink inside then
      return { link with before := "<a" ++ link.before, after := link.after ++ '>' :: inside }
    none
  | _ => none

end MarkdownSite.Heading
