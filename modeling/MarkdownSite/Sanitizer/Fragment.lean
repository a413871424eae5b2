import MarkdownSite.Sanitizer.Table

/-!
# Fragments

Any text is an HTML fragment: its tags are completed and put right as browsers do it.
-/

namespace MarkdownSite.Sanitizer

open Text

/-- Adds the text that has been kept in a table: white space stays in the table, and other text goes
before it. -/
def releaseText (before : Mode) (kept : Text) : Build Unit := do
  setMode before
  if kept.all isHtmlSpace then insertText kept else fostering (addContentText kept)

/-- Text, which starts with white space or has none at its start. -/
def feedText (isSpaces : Bool) (t : Text) : Build IsReadAgain := do
  let mode := (← get).mode
  match mode with
  | .body => if isSpaces then addContentSpaces t else addContentText t
  | .cell | .caption => if isSpaces then insertText t else addContentText t
  | .columnGroup =>
    if isSpaces then insertText t
    else
      closeColumns
      return true
  | .table | .tableBody | .row => setMode (.tableText mode t)
  | .tableText before kept => setMode (.tableText before (kept ++ t))
  | .verbatim _ => if isSpaces then addContentSpaces t else insertText t
  return false

/-- A start tag. -/
def feedStart (tag : StartTag) : Build IsReadAgain := do
  match (← get).mode with
  | .body =>
    startContent tag
    return false
  | .table => startInTable tag
  | .caption => startInCaption tag
  | .columnGroup => startInColumns tag
  | .tableBody => startInRows tag
  | .row => startInRow tag
  | .cell => startInCell tag
  | .tableText before kept =>
    releaseText before kept
    return true
  | .verbatim _ => return false

/-- An end tag. -/
def feedEnd (name : Text) : Build IsReadAgain := do
  match (← get).mode with
  | .body =>
    endContent name
    return false
  | .table => endInTable name
  | .caption => endInCaption name
  | .columnGroup => endInColumns name
  | .tableBody => endInRows name
  | .row => endInRow name
  | .cell => endInCell name
  | .tableText before kept =>
    releaseText before kept
    return true
  | .verbatim before =>
    pop
    setMode before
    return false

/-- A token, once. -/
def feedOnce (token : Token) : Build IsReadAgain := do
  match token with
  | .text t => feedText false t
  | .spaces t => feedText true t
  | .startTag tag => feedStart tag
  | .endTag name => feedEnd name
  | .comment t =>
    if let .tableText before kept := (← get).mode then releaseText before kept
    insertComment t
    return false

/-- A token, as often as it is to be read; each time it means something in a part of a table around
the one before, and parts do not go deeper than `count`. -/
def feed (token : Token) : (count : Nat) → Build Unit
  | 0 => return
  | count + 1 => do
    if ← feedOnce token then feed token count

/-- How often a token is read at most: as often as there are modes. -/
def readingsOfToken : Nat := 9

/-- Reads a fragment from here on; `fuel` bounds the number of steps. -/
def readFragment (context : TokenContext) : (fuel : Nat) → (afterTag : Bool) → Text → Build Unit
  | 0, _, _ => return
  | _, _, [] => return
  | fuel + 1, afterTag, t => do
    let isVerbatim := match (← get).mode with
      | .verbatim _ => true
      | _ => false
    let name ← currentName
    let (inside, rest) := if isVerbatim then readVerbatim name t else ([], t)
    let spaces := inside.takeWhile isHtmlSpace
    for token in [Token.spaces spaces, .text (inside.drop spaces.length)] do
      match token with
      | .spaces [] | .text [] => pure ()
      | token => feed token readingsOfToken
    let reading := readTokens context afterTag rest
    reading.tokens.forM fun token => feed token readingsOfToken
    readFragment context fuel (afterTag || reading.isTag) reading.rest

/-- Line ends of any kind as line feeds. -/
def normalizeLineEnds (t : Text) : Text := replaceChar '\r' '\n' (replace "\r\n" "\n" t)

/-- The nodes of a fragment. -/
def fragmentNodes (context : TokenContext) (t : Text) : List HtmlNode :=
  let t := normalizeLineEnds t
  let build : Build Unit := do
    readFragment context (t.length + 1) false t
    if let .tableText before kept := (← get).mode then releaseText before kept
  let tree := (build.run {}).2.tree
  tree.nodes tree.elements.size Tree.root

end MarkdownSite.Sanitizer
