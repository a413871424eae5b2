import MarkdownSite.Text.Blank

/-!
# Styles

The style of an element is a list of declarations. Those of allowed properties are kept, and
everything that is no declaration is left out.
-/

namespace MarkdownSite.Sanitizer

open Text

/-- What a piece of a style is. -/
inductive StyleKind where
  | blank
  | comment
  | name
  /-- A name after an at sign. -/
  | atName
  /-- A block in braces. -/
  | braces
  | other
  deriving DecidableEq, Repr

/-- A piece of a style: a block with all that stands in it is one piece. -/
structure StylePiece where
  /-- What it is. -/
  kind : StyleKind
  /-- How it is written. -/
  text : Text
  deriving DecidableEq, Repr

namespace StylePiece

/-- Whether a piece is this character. -/
def isChar (piece : StylePiece) (c : Char) : Bool := piece.kind == .other && piece.text == [c]

/-- Whether a piece means nothing. -/
def isIgnored (piece : StylePiece) : Bool := piece.kind == .blank || piece.kind == .comment

end StylePiece

/-! ## Pieces -/

/-- Whether a character may start a name in a style. -/
def startsStyleName (c : Char) : Bool := c.isAlpha || c == '_' || c.toNat ≥ 128

/-- Whether a character may stand in a name in a style. -/
def isStyleNameChar (c : Char) : Bool := startsStyleName c || c.isDigit || c == '-'

/-- Whether a text starts with a name. -/
def hasStyleName (t : Text) : Bool :=
  match t with
  | '-' :: c :: _ => startsStyleName c || c == '-'
  | c :: _ => startsStyleName c
  | [] => false

/-- The text of a string up to its closing quote, written for double quotes, and what follows. -/
def readStyleString (quote : Char) : Text → Text × Text
  | [] => ([], [])
  | '\\' :: c :: t =>
    let (inside, rest) := readStyleString quote t
    ((if c = '"' ∨ c = '\\' then ['\\', c] else if c = '\n' then [] else [c]) ++ inside, rest)
  | c :: t =>
    if c = quote then ([], t)
    else
      let (inside, rest) := readStyleString quote t
      (if c = '"' then '\\' :: c :: inside else c :: inside, rest)

/-- The text of a comment, and what follows it. -/
def readStyleComment (t : Text) : Text × Text := (splitFirst "*/" t).getD (t, [])

/-- The digits and the decimal point of a number. -/
def takeStyleNumber (t : Text) : Text :=
  let whole := t.takeWhile Char.isDigit
  match t.drop whole.length with
  | '.' :: d :: rest =>
    if d.isDigit then whole ++ '.' :: d :: rest.takeWhile Char.isDigit else whole
  | _ => whole

/-- The number that a text starts with, with its sign and its unit. -/
def styleNumber? (t : Text) : Option Text :=
  let sign : Text := match t with
    | c :: _ => if c = '+' ∨ c = '-' then [c] else []
    | [] => []
  let number := takeStyleNumber (t.drop sign.length)
  if number.isEmpty then none
  else
    let after := t.drop (sign.length + number.length)
    let unit :=
      if hasStyleName after then after.takeWhile isStyleNameChar
      else (after.takeWhile (· == '%')).take 1
    some (sign ++ number ++ unit)

/-- A blank in a style. -/
def isStyleBlank (c : Char) : Bool := c == ' ' || c == '\t' || c == '\n'

/-- The first piece of a text that has one, blocks not yet put together, and what follows. -/
def readStylePiece (c : Char) (t : Text) : StylePiece × Text :=
  let whole := c :: t
  let run (kind : StyleKind) (p : Char → Bool) : StylePiece × Text :=
    (⟨kind, whole.takeWhile p⟩, whole.dropWhile p)
  if isStyleBlank c then run .blank isStyleBlank
  else if c = '"' ∨ c = '\'' then
    let (inside, rest) := readStyleString c t
    (⟨.other, '"' :: inside ++ ['"']⟩, rest)
  else if startsWith "/*" whole then
    let (inside, rest) := readStyleComment (t.drop 1)
    (⟨.comment, "/*" ++ inside ++ "*/"⟩, rest)
  else
    match styleNumber? whole with
    | some number => (⟨.other, number⟩, whole.drop number.length)
    | none =>
      if hasStyleName whole then run .name isStyleNameChar
      else if c == '@' && hasStyleName t then
        (⟨.atName, '@' :: t.takeWhile isStyleNameChar⟩, t.dropWhile isStyleNameChar)
      else if c == '#' && t.head?.any isStyleNameChar then
        (⟨.other, '#' :: t.takeWhile isStyleNameChar⟩, t.dropWhile isStyleNameChar)
      else (⟨.other, [c]⟩, t)

/-- A block that is open. -/
structure StyleBlock where
  /-- What closes it. -/
  close : Char
  /-- What it is once it is closed. -/
  kind : StyleKind
  /-- What has been read of it. -/
  text : Text

/-- The pieces of a style so far, and the blocks that are open. -/
structure StyleReader where
  /-- The pieces, the last one first. -/
  pieces : List StylePiece := []
  /-- The open blocks, innermost first. -/
  blocks : List StyleBlock := []

namespace StyleReader

/-- Adds a piece to the innermost open block, or else to the style. -/
def add (r : StyleReader) (piece : StylePiece) : StyleReader :=
  match r.blocks with
  | block :: outer => { r with blocks := { block with text := block.text ++ piece.text } :: outer }
  | [] => { r with pieces := piece :: r.pieces }

/-- Closes the innermost open block. -/
def closeBlock (r : StyleReader) : StyleReader :=
  match r.blocks with
  | block :: outer => { r with blocks := outer }.add ⟨block.kind, block.text ++ [block.close]⟩
  | [] => r

/-- Opens a block. A name right before a parenthesis is part of its block. -/
def openBlock (r : StyleReader) (close : Char) (kind : StyleKind) (opening : Char) : StyleReader :=
  match r.blocks, r.pieces with
  | [], ⟨.name, name⟩ :: before =>
    if opening = '(' then
      { pieces := before, blocks := [⟨close, kind, name ++ [opening]⟩] }
    else { r with blocks := [⟨close, kind, [opening]⟩] }
  | _, _ => { r with blocks := ⟨close, kind, [opening]⟩ :: r.blocks }

/-- The next piece, which may open or close a block. -/
def step (r : StyleReader) (piece : StylePiece) : StyleReader :=
  if piece.isChar '{' then r.openBlock '}' .braces '{'
  else if piece.isChar '(' then r.openBlock ')' .other '('
  else if piece.isChar '[' then r.openBlock ']' .other '['
  else if (r.blocks.head?.map StyleBlock.close).any piece.isChar then r.closeBlock
  else r.add piece

/-- The pieces once the text is read; blocks that are open are closed. -/
def finish (r : StyleReader) : List StylePiece :=
  (r.blocks.foldl (fun r _ => r.closeBlock) r).pieces.reverse

end StyleReader

/-- The pieces of a style; `fuel` bounds their number. -/
def readStyle (r : StyleReader) : (fuel : Nat) → Text → List StylePiece
  | 0, _ => r.finish
  | _, [] => r.finish
  | fuel + 1, c :: t =>
    let (piece, rest) := readStylePiece c t
    readStyle (r.step piece) fuel rest

/-! ## Declarations -/

/-- What a style is made of. -/
inductive StyleItem where
  | declaration (name value : Text) (isImportant : Bool)
  | blank (t : Text)
  | comment (t : Text)
  deriving DecidableEq, Repr

/-- How far the value of a declaration has been read. -/
structure ValueReader where
  /-- The pieces so far, the last one first. -/
  pieces : List StylePiece := []
  /-- The pieces before the exclamation mark that precedes the last piece that means something, the
  last one first. -/
  beforeMark : Option (List StylePiece) := none
  /-- The declaration is marked as important. -/
  isImportant : Bool := false
  /-- There is a piece that means something. -/
  hasContent : Bool := false
  /-- A block in braces follows such a piece. -/
  hasLateBraces : Bool := false

/-- The next piece of a value. -/
def ValueReader.step (r : ValueReader) (piece : StylePiece) : ValueReader :=
  let next := { r with pieces := piece :: r.pieces }
  if piece.isIgnored then next
  else if r.beforeMark.isNone && piece.isChar '!' then { next with beforeMark := some r.pieces }
  else if r.beforeMark.isSome && !r.isImportant && piece.kind == .name
      && asciiLower piece.text == "important".toList then
    { next with isImportant := true }
  else
    { next with
      beforeMark := none
      isImportant := false
      hasLateBraces := r.hasLateBraces || (piece.kind == .braces && r.hasContent)
      hasContent := true }

/-- The declaration of a property by the pieces that follow its name. -/
def declaration? (name : Text) (pieces : List StylePiece) : Option StyleItem :=
  match pieces.dropWhile StylePiece.isIgnored with
  | colon :: value =>
    if !colon.isChar ':' then none
    else
      let r := value.foldl ValueReader.step {}
      if r.hasLateBraces then none
      else
        let kept := if r.isImportant then r.beforeMark.getD [] else r.pieces
        some (.declaration name (kept.reverse.flatMap StylePiece.text) r.isImportant)
  | [] => none

/-- What follows the semicolon or the block that ends a rule for the page, which is no
declaration. -/
def afterPageRule : List StylePiece → List StylePiece
  | [] => []
  | piece :: rest => if piece.isChar ';' || piece.kind == .braces then rest else afterPageRule rest

/-- The items of a style; `fuel` bounds their number. -/
def styleItems : (fuel : Nat) → List StylePiece → List StyleItem
  | 0, _ => []
  | _, [] => []
  | fuel + 1, piece :: rest =>
    match piece.kind with
    | .blank => .blank piece.text :: styleItems fuel rest
    | .comment => .comment piece.text :: styleItems fuel rest
    | .atName => styleItems fuel (afterPageRule rest)
    | kind =>
      if piece.isChar ';' then styleItems fuel rest
      else
        let inside := rest.takeWhile fun piece => !piece.isChar ';'
        let found := if kind = .name then declaration? piece.text inside else none
        found.toList ++ styleItems fuel (rest.drop (inside.length + 1))

/-- How an item is written. -/
def StyleItem.toText : StyleItem → Text
  | declaration name value isImportant =>
    name ++ ':' :: value ++ (if isImportant then ("!important" : Text) else []) ++ [';']
  | blank t => t
  | comment t => t

/-- Whether two items are of one kind. -/
def StyleItem.isLike : StyleItem → StyleItem → Bool
  | declaration .., declaration .. => true
  | blank _, blank _ => true
  | comment _, comment _ => true
  | _, _ => false

/-- The properties of drawings, which are always allowed. -/
def drawingProperties : List Text :=
  ["fill", "fill-opacity", "fill-rule", "stroke", "stroke-linecap", "stroke-linejoin",
    "stroke-opacity", "stroke-width"]

/-- The items that are kept, the last one first: declarations of allowed properties, and what
stands between them once. -/
def keepItem (allowed : List Text) (kept : List StyleItem) (item : StyleItem) : List StyleItem :=
  match item with
  | .declaration name _ _ =>
    let name := asciiLower name
    if allowed.contains name || drawingProperties.contains name then item :: kept else kept
  | item =>
    match kept with
    | last :: _ => if last.isLike item then kept else item :: kept
    | [] => kept

/-- A style with the declarations of allowed properties only. -/
def sanitizeStyle (allowed : List Text) (t : Text) : Text :=
  let t := replaceChar '\x0c' '\n' (replaceChar '\r' '\n' (replace "\r\n" "\n" t))
  let pieces := readStyle {} (t.length + 1) t
  let kept := (styleItems (pieces.length + 1) pieces).foldl (keepItem allowed) []
  trim (kept.reverse.flatMap StyleItem.toText)

end MarkdownSite.Sanitizer
