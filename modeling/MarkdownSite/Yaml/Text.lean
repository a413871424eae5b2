import MarkdownSite.Yaml.Cursor

/-!
# Texts of several lines

Scalars may go on over several lines. A line end between two lines is a space, and further ones
are line feeds; in block scalars line ends may be kept.
-/

namespace MarkdownSite.Yaml

/-- The line ends between two lines of a folded text, given how many blank lines are between
them. -/
def foldedBreak (blankLines : Nat) : Text :=
  if blankLines = 0 then [' '] else List.replicate blankLines '\n'

/-- The blank lines at a position, and the position of the next character that is neither a blank
nor a line end; `none` if a document ends there. -/
def skipBlankLines (isBlank : Char → Bool) (count : Nat) :
    (fuel : Nat) → Cursor → Option (Nat × Cursor)
  | 0, _ => none
  | fuel + 1, cursor =>
    if cursor.isMarker '-' || cursor.isMarker '.' then none
    else
      let cursor := cursor.skipWhile isBlank
      match cursor.peek? with
      | some '\n' => skipBlankLines isBlank (count + 1) fuel cursor.next
      | _ => some (count, cursor)

/-! ## Plain scalars -/

/-- Whether a character has a meaning in flow collections. -/
def isFlowIndicator (c : Char) : Bool :=
  c == ',' || c == '[' || c == ']' || c == '\x7b' || c == '\x7d'

/-- Whether a plain scalar stops before a text. -/
def stopsPlain (inFlow : Bool) (t : Text) : Bool :=
  match t with
  | [] => true
  | c :: rest =>
    isYamlBlank c
      || (c == ':' && (startsBlank rest || (inFlow && rest.head?.any isFlowIndicator)))
      || (inFlow && (isFlowIndicator c || c == '?'))

/-- The word of a plain scalar at the start of a text. -/
def plainWord (inFlow : Bool) : Text → Text
  | [] => []
  | c :: t => if stopsPlain inFlow (c :: t) then [] else c :: plainWord inFlow t

/-- A plain scalar from here on, whose further lines have at least the given column: its text, and
the position after it and after the blanks that follow. -/
def readPlain (inFlow : Bool) (least : Nat) : (fuel : Nat) → Cursor → Text × Cursor
  | 0, cursor => ([], cursor)
  | fuel + 1, cursor =>
    let word := plainWord inFlow cursor.rest
    let cursor := cursor.skip word.length
    let spaces := cursor.rest.takeWhile (· == ' ')
    let after := cursor.skip spaces.length
    let goOn (between : Text) (cursor : Cursor) : Text × Cursor :=
      if cursor.peek? == some '#' || stopsPlain inFlow cursor.rest then (word, cursor)
      else
        let (more, cursor) := readPlain inFlow least fuel cursor
        (word ++ between ++ more, cursor)
    match after.peek? with
    | some '\n' =>
      match skipBlankLines (· == ' ') 0 (after.rest.length + 1) after.next with
      | some (blankLines, next) =>
        if !inFlow && next.column < least then (word, next) else goOn (foldedBreak blankLines) next
      | none => (word, after.next)
    | _ => if spaces.isEmpty then (word, cursor) else goOn spaces after

/-! ## Quoted scalars -/

/-- The characters that a backslash and a letter write in double quotes. -/
def escapes : List (Char × Char) :=
  [('0', '\x00'), ('a', '\x07'), ('b', '\x08'), ('t', '\t'), ('\t', '\t'), ('n', '\n'),
    ('v', '\x0b'), ('f', '\x0c'), ('r', '\r'), ('e', '\x1b'), (' ', ' '), ('"', '"'),
    ('/', '/'), ('\\', '\\'), ('N', '\u0085'), ('_', '\u00a0'), ('L', '\u2028'), ('P', '\u2029')]

/-- How many hexadecimal digits follow a letter in an escape. -/
def escapeDigits? (c : Char) : Option Nat :=
  if c = 'x' then some 2 else if c = 'u' then some 4 else if c = 'U' then some 8 else none

/-- A quoted scalar after its opening quote: its text, and the position after the closing one. -/
def readQuoted (quote : Char) : (fuel : Nat) → Cursor → Option (Text × Cursor)
  | 0, _ => none
  | fuel + 1, cursor =>
    let go (text : Text) (cursor : Cursor) : Option (Text × Cursor) :=
      (readQuoted quote fuel cursor).map fun (more, cursor) => (text ++ more, cursor)
    let isBlank (c : Char) : Bool := c == ' ' || c == '\t'
    match cursor.rest with
    | [] => none
    | c :: t =>
      if c = quote then
        if quote == '\'' && t.head? == some '\'' then go ['\''] (cursor.skip 2)
        else some ([], cursor.skip 1)
      else if c = '\n' then do
        let (blankLines, cursor) ← skipBlankLines isBlank 0 (t.length + 1) cursor.next
        go (foldedBreak blankLines) cursor
      else if isBlank c then
        let spaces := cursor.rest.takeWhile isBlank
        let after := cursor.skip spaces.length
        go (if after.peek? == some '\n' then [] else spaces) after
      else if c = '\\' ∧ quote = '"' then
        match t with
        | '\n' :: _ => do
          let (blankLines, cursor) ←
            skipBlankLines isBlank 0 (t.length + 1) (cursor.skip 1).next
          go (List.replicate blankLines '\n') cursor
        | e :: digits =>
          match escapes.lookup e, escapeDigits? e with
          | some d, _ => go [d] (cursor.skip 2)
          | none, some count => do
            let n ← if digits.length < count then none else Text.toNatBase? 16 (digits.take count)
            if n > 0x10FFFF then none
            go [Char.ofNat n] (cursor.skip (2 + count))
          | none, none => none
        | [] => none
      else go [c] (cursor.skip 1)

/-! ## Block scalars -/

/-- What happens to the line ends at the end of a block scalar. -/
inductive Chomping where
  | strip
  | clip
  | keep
  deriving DecidableEq, Repr

/-- The head of a block scalar: chomping and indentation, in either order. -/
def blockHead (t : Text) : Chomping × Option Nat × Text :=
  let chomping? (c : Char) : Option Chomping :=
    if c = '+' then some .keep else if c = '-' then some .strip else none
  let digit? (c : Char) : Option Nat :=
    if '1' ≤ c ∧ c ≤ '9' then some (c.toNat - 48) else none
  let sign (t : Text) : Option (Chomping × Text) :=
    match t with
    | c :: rest => (chomping? c).map (·, rest)
    | [] => none
  let digit (t : Text) : Option (Nat × Text) :=
    match t with
    | c :: rest => (digit? c).map (·, rest)
    | [] => none
  match sign t with
  | some (chomping, rest) =>
    match digit rest with
    | some (n, rest) => (chomping, some n, rest)
    | none => (chomping, none, rest)
  | none =>
    match digit t with
    | some (n, rest) =>
      match sign rest with
      | some (chomping, rest) => (chomping, some n, rest)
      | none => (.clip, some n, rest)
    | none => (.clip, none, t)

/-- What follows the line that a block scalar starts on; only blanks and a comment may stand on
it. -/
def afterHead? (t : Text) : Option Text :=
  let afterSpaces := t.dropWhile (· == ' ')
  match afterSpaces with
  | [] => some []
  | '\n' :: rest => some rest
  | '#' :: comment => some ((comment.dropWhile (· != '\n')).drop 1)
  | _ => none

/-- The number of blank lines at the start of a text, the greatest number of spaces on a line up to
the first line that is not blank, and the text from that line on. -/
def leadingBlankLines : (fuel : Nat) → Text → Nat × Nat
  | 0, _ => (0, 0)
  | fuel + 1, t =>
    let spaces := (t.takeWhile (· == ' ')).length
    match t.drop spaces with
    | '\n' :: rest =>
      let (count, most) := leadingBlankLines fuel rest
      (count + 1, max spaces most)
    | _ => (0, spaces)

/-- The blank lines at the start of a text whose lines have the given indentation, and what follows
them and the indentation of the first other line: how much of the indentation that line has. -/
def skipBreaks (indent : Nat) : (fuel : Nat) → Text → Nat × Nat × Text
  | 0, t => (0, 0, t)
  | fuel + 1, t =>
    let spaces := min indent (t.takeWhile (· == ' ')).length
    match t.drop spaces with
    | '\n' :: rest =>
      let (count, column, rest) := skipBreaks indent fuel rest
      (count + 1, column, rest)
    | rest => (0, spaces, rest)

/-- How the lines of a block scalar are joined. -/
structure BlockStyle where
  /-- Line ends between lines that do not start with a blank are spaces. -/
  isFolded : Bool
  /-- What happens to the line ends at the end. -/
  chomping : Chomping
  /-- How far the lines are indented. -/
  indent : Nat

/-- The lines of a block scalar from the first one on, its indentation left out; `breaks` blank
lines precede. The text, and the position after it. -/
def readBlockLines (style : BlockStyle) (anchors : List (Text × Value)) (breaks : Nat) :
    (fuel : Nat) → Text → Text × Cursor
  | 0, t => ([], { rest := t, anchors })
  | fuel + 1, t =>
    let line := t.takeWhile (· != '\n')
    let hasBreak := line.length < t.length
    let (blankLines, column, rest) :=
      skipBreaks style.indent (t.length + 1) (t.drop (line.length + 1))
    let before := List.replicate breaks '\n'
    let lineBreak : Text := if hasBreak then ['\n'] else []
    if column = style.indent ∧ !rest.isEmpty ∧ hasBreak then
      let startsPlain (t : Text) : Bool := !t.head?.any fun c => c == ' ' || c == '\t'
      let joint : Text :=
        if style.isFolded && startsPlain t && startsPlain rest then
          if blankLines = 0 then [' '] else []
        else lineBreak
      let (more, cursor) := readBlockLines style anchors blankLines fuel rest
      (before ++ line ++ joint ++ more, cursor)
    else
      let ending : Text := match style.chomping with
        | .strip => []
        | .clip => lineBreak
        | .keep => lineBreak ++ List.replicate blankLines '\n'
      (before ++ line ++ ending, { rest, column, anchors })

/-- A block scalar after the character that announces it. Its lines are indented by at least
`least`, and at least by one. -/
def readBlockScalar (isFolded : Bool) (least : Nat) (cursor : Cursor) : Option (Text × Cursor) := do
  let (chomping, given, rest) := blockHead cursor.rest
  let t ← afterHead? rest
  let least := max least 1
  let indent := match given with
    | some n => least + n - 1
    | none => max least (leadingBlankLines (t.length + 1) t).2
  let (breaks, column, rest) := skipBreaks indent (t.length + 1) t
  if column = indent ∧ !rest.isEmpty then
    let style : BlockStyle := { isFolded, chomping, indent }
    return readBlockLines style cursor.anchors breaks (rest.length + 1) rest
  else
    let kept := if chomping = .keep then List.replicate breaks '\n' else []
    return (kept, { rest, column, anchors := cursor.anchors })

end MarkdownSite.Yaml
