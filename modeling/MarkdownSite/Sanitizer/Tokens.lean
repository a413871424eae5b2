import MarkdownSite.Text.Blank

/-!
# The tokens of HTML

HTML is cut into tags, comments and text as browsers do it, with two exceptions: character
references stay as they are written, and what looks like a tag at the end of the text is text.
-/

namespace MarkdownSite.Sanitizer

open Text

/-- The white space of HTML. -/
def isHtmlSpace (c : Char) : Bool := c == '\t' || c == '\n' || c == '\x0c' || c == ' ' || c == '\r'

/-- A start tag. -/
structure StartTag where
  /-- The name, in lower case. -/
  name : Text
  /-- The attributes, each name once. -/
  attributes : List (Text × Text) := []
  deriving DecidableEq, Repr

/-- A token of HTML. -/
inductive Token where
  /-- Text that does not start with white space. -/
  | text (t : Text)
  /-- White space. -/
  | spaces (t : Text)
  | startTag (tag : StartTag)
  | endTag (name : Text)
  | comment (t : Text)
  deriving DecidableEq, Repr

/-! ## Tags -/

/-- Where in a tag reading stands. -/
inductive TagState where
  | tagName
  | beforeName
  | name
  | afterName
  | beforeValue
  | quoted (quote : Char)
  | unquoted
  | afterValue
  | afterSlash
  deriving DecidableEq, Repr

/-- What has been read of a tag; all texts have their last character first. -/
structure TagReader where
  /-- Where reading stands. -/
  state : TagState := .tagName
  /-- The name of the element. -/
  element : Text := []
  /-- The names and values of the attributes, the last one first. -/
  attributes : List (Text × Text) := []

namespace TagReader

/-- The character that stands for one that HTML may not have. -/
def withoutNul (c : Char) : Char := if c = '\x00' then '\uFFFD' else c

/-- Starts an attribute. -/
def addAttribute (r : TagReader) (c : Char) : TagReader :=
  { r with state := .name, attributes := ([withoutNul c], []) :: r.attributes }

/-- Changes the last attribute. -/
def modifyLast (r : TagReader) (f : Text × Text → Text × Text) : TagReader :=
  match r.attributes with
  | last :: before => { r with attributes := f last :: before }
  | [] => r

/-- Goes on with the name of the last attribute. -/
def addToName (r : TagReader) (c : Char) : TagReader :=
  r.modifyLast fun (name, value) => (withoutNul c :: name, value)

/-- Goes on with the value of the last attribute. -/
def addToValue (r : TagReader) (c : Char) : TagReader :=
  r.modifyLast fun (name, value) => (name, withoutNul c :: value)

/-- A character between attributes. -/
def stepBeforeName (r : TagReader) (c : Char) : TagReader :=
  if isHtmlSpace c then { r with state := .beforeName }
  else if c = '/' then { r with state := .afterSlash }
  else r.addAttribute c

/-- One character that does not end the tag. -/
def step (r : TagReader) (c : Char) : TagReader :=
  match r.state with
  | .tagName =>
    if isHtmlSpace c then { r with state := .beforeName }
    else if c = '/' then { r with state := .afterSlash }
    else { r with element := withoutNul c :: r.element }
  | .beforeName | .afterSlash => r.stepBeforeName c
  | .name =>
    if c = '=' then { r with state := .beforeValue }
    else if isHtmlSpace c then { r with state := .afterName }
    else if c = '/' then { r with state := .afterSlash }
    else r.addToName c
  | .afterName =>
    if isHtmlSpace c then r
    else if c = '=' then { r with state := .beforeValue }
    else if c = '/' then { r with state := .afterSlash }
    else r.addAttribute c
  | .beforeValue =>
    if isHtmlSpace c then r
    else if c = '"' ∨ c = '\'' then { r with state := .quoted c }
    else { r.addToValue c with state := .unquoted }
  | .quoted quote => if c = quote then { r with state := .afterValue } else r.addToValue c
  | .unquoted => if isHtmlSpace c then { r with state := .beforeName } else r.addToValue c
  | .afterValue => r.stepBeforeName c

/-- Whether a character ends the tag. -/
def ends (r : TagReader) (c : Char) : Bool :=
  c == '>' && (match r.state with
    | .quoted _ => false
    | _ => true)

/-- Whether a tag that the text ends in is text, and not left out. -/
def isTextAtEnd (r : TagReader) : Bool :=
  match r.state with
  | .tagName | .beforeName | .name | .unquoted => true
  | _ => false

/-- Each attribute with the value it is given first, in the order of their names. -/
def firstValues : List (Text × Text) → List (Text × Text)
  | [] => []
  | (name, value) :: rest => (name, value) :: (firstValues rest).filter fun (n, _) => n != name

/-- The tag that has been read. -/
def tag (r : TagReader) : StartTag where
  name := asciiLower r.element.reverse
  attributes := firstValues (r.attributes.reverse.map fun (name, value) =>
    (asciiLower name.reverse, value.reverse))

end TagReader

/-- Reads a tag from its name on: what has been read, and the text after the tag unless the text
ends in it. -/
def readTag (r : TagReader) : Text → TagReader × Option Text
  | [] => (r, none)
  | c :: t => if r.ends c then (r, some t) else readTag (r.step c) t

/-! ## Comments -/

/-- Where in a comment reading stands: how many hyphens precede, or whether an exclamation mark
follows two of them. -/
inductive CommentState where
  | start
  | startHyphen
  | inside
  | hyphen
  | hyphens
  | bang
  deriving DecidableEq, Repr

/-- Reads a comment after its `<!--`: its text and what follows. -/
def readComment (state : CommentState) : Text → Text × Text
  | [] => ([], [])
  | c :: t =>
    let go (added : Text) (state : CommentState) : Text × Text :=
      let (inside, rest) := readComment state t
      (added ++ inside, rest)
    match state with
    | .start => if c = '-' then go [] .startHyphen else if c = '>' then ([], t) else go [c] .inside
    | .startHyphen =>
      if c = '-' then go [] .hyphens else if c = '>' then ([], t) else go ['-', c] .inside
    | .inside => if c = '-' then go [] .hyphen else go [c] .inside
    | .hyphen => if c = '-' then go [] .hyphens else go ['-', c] .inside
    | .hyphens =>
      if c = '>' then ([], t)
      else if c = '!' then go [] .bang
      else if c = '-' then go ['-'] .hyphens
      else go ['-', '-', c] .inside
    | .bang =>
      if c = '>' then ([], t)
      else if c = '-' then go "--!" .hyphen
      else go ("--!" ++ [c]) .inside

/-- The text up to the next `>`, and what follows that. -/
def throughAngle (t : Text) : Text × Text :=
  (t.takeWhile (· != '>'), (t.dropWhile (· != '>')).drop 1)

/-! ## Tokens -/

/-- What tokens are read with. -/
structure TokenContext where
  /-- The elements whose tags are tokens. -/
  tags : List Text
  /-- Tags of other elements are left out; else they are text. -/
  strip : Bool

/-- The elements that stand on lines of their own. -/
def lineElements : List Text :=
  List.map String.toList ["address", "article", "aside", "blockquote", "details", "dialog", "dd",
    "div", "dl", "dt", "fieldset", "figcaption", "figure", "footer", "form", "h1", "h2", "h3",
    "h4", "h5", "h6", "header", "hgroup", "hr", "li", "main", "nav", "ol", "p", "pre", "section",
    "table", "ul"]

/-- What is read from a text: tokens, whether one of them is a tag, and what follows. -/
structure Reading where
  /-- The tokens. -/
  tokens : List Token
  /-- A tag has been read. -/
  isTag : Bool := false
  /-- The text after them. -/
  rest : Text

/-- What stands between a text and the part of it that follows. -/
def before (t rest : Text) : Text := t.take (t.length - rest.length)

/-- The tag whose name starts after `opening`; `afterTag` says that a tag precedes it. -/
def readTagToken (context : TokenContext) (afterTag isEnd : Bool) (opening t : Text) : Reading :=
  match readTag {} t with
  | (reader, none) =>
    { tokens := if reader.isTextAtEnd then [.text (opening ++ t)] else [], rest := [] }
  | (reader, some rest) =>
    let tag := reader.tag
    let token : Token :=
      if context.tags.contains tag.name then if isEnd then .endTag tag.name else .startTag tag
      else if context.strip then
        -- where a block is left out, its text starts a line
        if afterTag && !isEnd && lineElements.contains tag.name then .text ['\n'] else .text []
      else .text (opening ++ before t rest)
    { tokens := [token], isTag := true, rest }

/-- What stands after `</`. -/
def readEndTag (context : TokenContext) (afterTag : Bool) (t : Text) : Reading :=
  match t with
  | [] => { tokens := [.text "</"], rest := [] }
  | '>' :: rest => { tokens := [], rest }
  | c :: _ =>
    if c.isAlpha then readTagToken context afterTag true "</" t
    else
      let (inside, rest) := throughAngle t
      if context.tags.contains (trim (asciiLower inside)) then
        { tokens := [.comment inside], rest }
      else { tokens := [.text ("</" ++ before t rest)], rest }

/-- What stands after `<!`: a comment, or a declaration of the type of the document, which is left
out. -/
def readDeclaration (t : Text) : Reading :=
  match dropPrefix? "--" t with
  | some t =>
    let (inside, rest) := readComment .start t
    { tokens := [.comment inside], rest }
  | none =>
    let (inside, rest) := throughAngle t
    if asciiLower (t.take 7) == "doctype".toList then { tokens := [], rest }
    else { tokens := [.comment inside], rest }

/-- What stands after `<`. -/
def readMarkup (context : TokenContext) (afterTag : Bool) (t : Text) : Reading :=
  match t with
  | '!' :: rest => readDeclaration rest
  | '/' :: rest => readEndTag context afterTag rest
  | '>' :: rest => { tokens := [.text "<>"], rest }
  | '?' :: _ =>
    let (inside, rest) := throughAngle t
    { tokens := [.comment inside], rest }
  | c :: _ =>
    if c.isAlpha then readTagToken context afterTag false "<" t
    else { tokens := [.text "<"], rest := t }
  | [] => { tokens := [.text "<"], rest := [] }

/-- The first tokens of a text. -/
def readTokens (context : TokenContext) (afterTag : Bool) (t : Text) : Reading :=
  match t with
  | [] => { tokens := [], rest := [] }
  | c :: rest =>
    if c = '<' then readMarkup context afterTag rest
    else if c = '&' then { tokens := [.text ['&']], rest }
    else if c = '\x00' then { tokens := [], rest }
    else if isHtmlSpace c then
      let spaces := t.takeWhile isHtmlSpace
      { tokens := [.spaces spaces], rest := t.drop spaces.length }
    else
      let run := t.takeWhile fun d => d != '<' && d != '&' && d != '\x00'
      { tokens := [.text run], rest := t.drop run.length }

/-- Whether a text starts with the end tag of an element. -/
def startsEndTag (name t : Text) : Bool :=
  match dropPrefix? ("</" ++ name) (t.take 2 ++ asciiLower ((t.drop 2).take name.length)
      ++ (t.drop 2).drop name.length) with
  | some (c :: _) => isHtmlSpace c || c == '/' || c == '>'
  | _ => false

/-- The text up to the end tag of an element whose content is no markup, and the text from that
tag on. -/
def readVerbatim (name : Text) : Text → Text × Text
  | [] => ([], [])
  | c :: t =>
    if c == '<' && startsEndTag name (c :: t) then ([], c :: t)
    else
      let (inside, rest) := readVerbatim name t
      (c :: inside, rest)

end MarkdownSite.Sanitizer
