import MarkdownSite.Heading.Alias
import MarkdownSite.Node.Inline

/-!
# Headings, paragraphs, list items and code blocks

The HTML of the blocks whose form depends on options.
-/

namespace MarkdownSite

open Text

/-- An element with the given name and content. -/
def elementHtml (name content : Text) : Text :=
  '<' :: name ++ '>' :: content ++ "</" ++ name ++ ">"

/-! ## Headings -/

namespace Heading

/-- A heading to render. -/
structure Source where
  /-- The rendered content. -/
  content : Text
  /-- The level as it is written in the name of the element. -/
  level : Text
  deriving DecidableEq, Repr

/-- The text from which a heading takes its id: the target of the link that it is, or its
content. -/
def idSource (link : Option AliasLink) (content : Text) : Text :=
  match link with
  | some link => Url.percentDecode link.target
  | none => content

/-- The content of a heading with an id: a link that the heading is leads to the id. -/
def contentFor (link : Option AliasLink) (content id : Text) : Text :=
  match link with
  | some link => link.before ++ id ++ link.after
  | none => content

/-- A heading with an id and a link to itself. -/
def withId (level content id : Text) : Text :=
  let name := 'h' :: level
  '<' :: name ++ attributeHtml "id" id ++ "><a" ++ attributeHtml "href" ('#' :: id)
    ++ attributeHtml "class" "headerlink" ++ attributeHtml "title" (attributeText content)
    ++ "></a>" ++ content ++ "</" ++ name ++ ">"

/-- A heading without an id. -/
def Source.plain (heading : Source) : Text := elementHtml ('h' :: heading.level) heading.content

end Heading

/-- Gives out an id for a heading with the given content. -/
def allocateId (fragment : Text) (transform : CaseTransform) : RenderM (Option Text) := do
  let id ← RenderM.onIds fun ids => ids.allocate fragment transform
  if let some unique := id then
    HeadingIds.reportRenamed (headingSlug fragment transform) unique
  return id

/-- A heading, with an id unless options forbid it or nothing is left for one. -/
def renderHeading (page : Page) (heading : Heading.Source) : RenderM Text := do
  let options := page.options
  if !options.headerIds then return heading.plain
  let link := if options.anchorAlias then Heading.aliasLink? heading.content else none
  match ← allocateId (Heading.idSource link heading.content) options.modifyAnchors with
  | some id =>
    return Heading.withId heading.level (Heading.contentFor link heading.content id) id
  | none => return heading.plain

/-! ## Description lists -/

/-- The mark between a term and its description. -/
def termEnd : Text := "<br>:"

/-- What follows the mark of a description list, cut into the description, which ends with its
line, and the rest. -/
def descriptionAfter? (t : Text) : Option (Text × Text) :=
  match t with
  | blank :: t =>
    if isBlank blank then
      match t.dropWhile isBlank with
      | c :: d :: rest =>
        if d = '\n' then none
        else
          let line := (d :: rest).takeWhile (· != '\n')
          some (c :: line, (d :: rest).drop line.length)
      | _ => none
    else none
  | [] => none

/-- The last place on the first line of a text where a term can end: the text before it, the
description and the rest. -/
def splitTerm? : Text → Option (Text × Text × Text)
  | [] => none
  | c :: t =>
    if c = '\n' then none
    else
      match splitTerm? t with
      | some (term, found) => some (c :: term, found)
      | none =>
        ((dropPrefix? termEnd (c :: t)).bind descriptionAfter?).map fun found => ([], found)

/-- A description list that starts here: its term, of two characters at least, its description and
the rest. -/
def descriptionHere? (t : Text) : Option (Text × Text × Text) :=
  match t with
  | c :: d :: rest =>
    if isBlank c || d == '\n' then none
    else (splitTerm? rest).map fun (term, found) => (c :: d :: term, found)
  | _ => none

/-- A description list with one term. -/
def descriptionHtml (term description : Text) : Text :=
  "<dl><dt>" ++ term ++ "</dt><dd>" ++ description ++ "</dd></dl>"

/-- The text with a description list in place of the first term and description that follow a
blank, which goes with them. -/
def describeAfterBlank? : Text → Option Text
  | [] => none
  | c :: t =>
    match if isBlank c then descriptionHere? t else none with
    | some (term, description, rest) => some (descriptionHtml term description ++ rest)
    | none => (describeAfterBlank? t).map (c :: ·)

/-- The text with a description list in place of its first term and description, if it has any. -/
def describe? (t : Text) : Option Text :=
  match descriptionHere? t with
  | some (term, description, rest) => some (descriptionHtml term description ++ rest)
  | none => describeAfterBlank? t

/-- A paragraph, or a description list. -/
def renderParagraph (page : Page) (content : Text) : Text :=
  match if page.options.descriptionLists then describe? content else none with
  | some list => list
  | none => elementHtml "p" content ++ ['\n']

/-! ## List items -/

/-- What follows a box at the start of an item, and the blanks around it. -/
def afterBox? (box content : Text) : Option Text :=
  (dropPrefix? box (content.dropWhile isBlank)).map (List.dropWhile isBlank)

/-- A list item; a box at its start becomes a check box. -/
def renderListItem (content : Text) : Text :=
  let withBox (box rest : Text) : Text :=
    "<li" ++ attributeHtml "style" "list-style: none" ++ ">" ++ box ++ ' ' :: rest ++ "</li>\n"
  match afterBox? "[ ]" content, afterBox? "[x]" content with
  | some rest, _ => withBox "<input type=\"checkbox\">" rest
  | none, some rest => withBox "<input type=\"checkbox\" checked>" rest
  | none, none => elementHtml "li" content ++ ['\n']

/-! ## Code blocks -/

/-- A code block; `info` stands after the fence and starts with the name of the language. -/
def renderCodeBlock (page : Page) (code info : Text) : Logged Text := do
  let options := page.options
  let language := Code.languageOf info
  let body ← Code.highlight page.highlighter code language options.highlight
  let className := match language with
    | some name => attributeHtml "class" (renormalize (options.langPrefix ++ name))
    | none => []
  return "<pre><code" ++ className ++ ">" ++ body ++ "</code></pre>"

end MarkdownSite
