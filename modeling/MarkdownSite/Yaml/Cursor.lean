import MarkdownSite.Value.Basic

/-!
# Positions in a document

Reading of YAML depends on columns: the indentation of a line says what it belongs to.
-/

namespace MarkdownSite.Yaml

/-- A position in a document. -/
structure Cursor where
  /-- The text from here on. -/
  rest : Text
  /-- How many characters precede on the line. -/
  column : Nat := 0
  /-- The values that have been given names. -/
  anchors : List (Text × Value) := []

/-- Whether a character ends a word: a blank or a line end. -/
def isYamlBlank (c : Char) : Bool := c == ' ' || c == '\t' || c == '\n'

/-- Whether a text starts with a blank, or is at its end. -/
def startsBlank (t : Text) : Bool :=
  match t with
  | [] => true
  | c :: _ => isYamlBlank c

namespace Cursor

/-- The next character. -/
def peek? (cursor : Cursor) : Option Char := cursor.rest.head?

/-- The position after the next character. -/
def next (cursor : Cursor) : Cursor :=
  match cursor.rest with
  | c :: rest => { cursor with rest, column := if c = '\n' then 0 else cursor.column + 1 }
  | [] => cursor

/-- The position after some characters, none of which ends a line. -/
def skip (cursor : Cursor) (count : Nat) : Cursor :=
  { cursor with rest := cursor.rest.drop count, column := cursor.column + count }

/-- The position after the characters that satisfy `p`, none of which ends a line. -/
def skipWhile (cursor : Cursor) (p : Char → Bool) : Cursor :=
  cursor.skip (cursor.rest.takeWhile p).length

/-- Whether three of the given characters alone start a line, which then separates documents. -/
def isMarker (cursor : Cursor) (c : Char) : Bool :=
  cursor.column == 0 && cursor.rest.take 3 == [c, c, c] && startsBlank (cursor.rest.drop 3)

/-- Whether the document ends here. -/
def isAtEnd (cursor : Cursor) : Bool :=
  cursor.rest.isEmpty || cursor.isMarker '-' || cursor.isMarker '.'

/-- Whether an item of a block sequence starts here. -/
def isItem (cursor : Cursor) : Bool :=
  cursor.peek? == some '-' && startsBlank (cursor.rest.drop 1) && !cursor.isMarker '-'

/-- Whether a colon that follows a key stands here. In flow collections it need not be followed by a
blank. -/
def isColon (cursor : Cursor) (inFlow : Bool) : Bool :=
  cursor.peek? == some ':' && (inFlow || startsBlank (cursor.rest.drop 1))

/-- Skips spaces, comments and line ends: whether there is a line end among them, and the position
of what follows. -/
def toToken (isNewLine : Bool) (column : Nat) (anchors : List (Text × Value)) (inComment : Bool) :
    Text → Bool × Cursor
  | [] => (isNewLine, { rest := [], column, anchors })
  | c :: t =>
    if c = '\n' then toToken true 0 anchors false t
    else if inComment || c == ' ' then toToken isNewLine (column + 1) anchors inComment t
    else if c = '#' then toToken isNewLine (column + 1) anchors true t
    else (isNewLine, { rest := c :: t, column, anchors })

/-- Goes on to the next token: whether it stands on another line, and its position. -/
def token (cursor : Cursor) : Bool × Cursor :=
  toToken false cursor.column cursor.anchors false cursor.rest

end Cursor

end MarkdownSite.Yaml
