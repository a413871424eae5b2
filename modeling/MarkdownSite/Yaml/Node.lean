import MarkdownSite.Yaml.Scalar
import MarkdownSite.Yaml.Text

/-!
# Nodes

Reading of values in YAML: scalars, collections by indentation, and collections in brackets.
Nodes may be given names, by which they are used again.
-/

namespace MarkdownSite.Yaml

/-- A key with its value. A merge key, which only stands unquoted, puts the entries of other
mappings before those of its own one. -/
structure Pair where
  /-- The key. -/
  key : Value
  /-- The value. -/
  value : Value
  /-- The key asks for a merge. -/
  isMerge : Bool

/-- A node as it is read. -/
structure Read where
  /-- Its value. -/
  value : Value
  /-- It is the unquoted key that asks for a merge. -/
  isMerge : Bool := false
  /-- The position after it. -/
  cursor : Cursor

/-- The mappings that a merge takes entries from, the last one first. -/
def mergedEntries? : Value → Option (List Entries)
  | .map entries => some [entries]
  | .list items => (items.mapM fun (item : Value) =>
      match item with
      | .map entries => some entries
      | _ => none).map List.reverse
  | _ => none

/-- The mapping that pairs give; of pairs with one key the last one counts. -/
def mappingOf (pairs : List Pair) : Option Value := do
  let merged ← (pairs.filter Pair.isMerge).mapM fun pair => mergedEntries? pair.value
  let own ← (pairs.filter fun pair => !pair.isMerge).mapM fun pair => do
    return (← keyText? pair.key, pair.value)
  return Value.map (Entries.ofList (merged.flatten.flatten ++ own))

/-- Whether a plain scalar may start here. -/
def startsPlainScalar (inFlow : Bool) (t : Text) : Bool :=
  match t with
  | [] => false
  | c :: rest =>
    let isIndicator :=
      isFlowIndicator c || List.elem c (String.toList "-?:#&*!|>'\"%@\x60") || isYamlBlank c
    !isIndicator || (!startsBlank rest && (c == '-' || (!inFlow && (c == '?' || c == ':'))))

/-- The name of an anchor or an alias. -/
def anchorName? (t : Text) : Option Text :=
  let name := t.takeWhile fun c => c.isAlphanum || c == '-' || c == '_'
  let after := t.drop name.length
  let isEnd (c : Char) : Bool := List.elem c (String.toList "?:,]\x7d%@\x60")
  let ends := startsBlank after || after.head?.any isEnd
  if !name.isEmpty && ends then some name else none

/-- A scalar or an alias. Further lines of a plain scalar have at least the given column. -/
def readScalar (inFlow : Bool) (least : Nat) (cursor : Cursor) : Option Read := do
  let fuel := cursor.rest.length + 1
  match cursor.rest with
  | '*' :: rest =>
    let name ← anchorName? rest
    return { value := ← cursor.anchors.lookup name, cursor := cursor.skip (name.length + 1) }
  | c :: _ =>
    if c = '"' ∨ c = '\'' then
      let (text, cursor) ← readQuoted c fuel (cursor.skip 1)
      return { value := .text text, cursor }
    else if startsPlainScalar inFlow cursor.rest then
      let (text, after) := readPlain inFlow least fuel cursor
      let isMerge := text == "<<".toList
      return { value := ← plainValue? text, isMerge, cursor := after }
    else none
  | [] => none

/-- Gives a node a name. -/
def Read.named (read : Read) (name : Option Text) : Read :=
  match name with
  | some name =>
    { read with
      cursor := { read.cursor with anchors := (name, read.value) :: read.cursor.anchors } }
  | none => read

/-- The name that a node is given here, and the position of the node: whether that is on another
line. -/
def anchorHere? (cursor : Cursor) : Option (Option Text × Bool × Cursor) :=
  match cursor.rest with
  | '&' :: rest =>
    match anchorName? rest with
    | some name =>
      let (isNewLine, cursor) := (cursor.skip (name.length + 1)).token
      some (some name, isNewLine, cursor)
    | none => none
  | _ => some (none, false, cursor)

/-! ## Collections in brackets -/

mutual

/-- A node in a flow collection. -/
def readFlow : (fuel : Nat) → Cursor → Option Read
  | 0, _ => none
  | fuel + 1, cursor => do
    let (name, _, cursor) ← anchorHere? cursor
    let read ← match cursor.rest with
      | '[' :: _ => readFlowItems [] fuel (cursor.skip 1).token.2
      | '\x7b' :: _ => readFlowPairs [] fuel (cursor.skip 1).token.2
      | _ => readScalar true 0 cursor
    return read.named name

/-- The items up to the bracket that closes a sequence, after the given ones, which are last
first. -/
def readFlowItems (items : List Value) : (fuel : Nat) → Cursor → Option Read
  | 0, _ => none
  | fuel + 1, cursor => do
    if cursor.peek? == some ']' then
      return { value := .list items.reverse, cursor := cursor.skip 1 }
    let read ← readFlow fuel cursor
    let after := read.cursor.token.2
    let (item, after) ←
      if after.isColon true then do
        let value ← readFlowValue fuel (after.skip 1).token.2
        let pair : Pair := { key := read.value, value := value.value, isMerge := read.isMerge }
        pure (← mappingOf [pair], value.cursor.token.2)
      else pure (read.value, after)
    match after.peek? with
    | some ',' => readFlowItems (item :: items) fuel (after.skip 1).token.2
    | some ']' => return { value := .list (item :: items).reverse, cursor := after.skip 1 }
    | _ => none

/-- The pairs up to the brace that closes a mapping, after the given ones, which are last first. A
key alone has no value. -/
def readFlowPairs (pairs : List Pair) : (fuel : Nat) → Cursor → Option Read
  | 0, _ => none
  | fuel + 1, cursor => do
    if cursor.peek? == some '\x7d' then
      return { value := ← mappingOf pairs.reverse, cursor := cursor.skip 1 }
    let read ← readFlow fuel cursor
    let after := read.cursor.token.2
    let value ←
      if after.isColon true then readFlowValue fuel (after.skip 1).token.2
      else pure { value := .null, cursor := after }
    let pairs := { key := read.value, value := value.value, isMerge := read.isMerge } :: pairs
    let after := value.cursor.token.2
    match after.peek? with
    | some ',' => readFlowPairs pairs fuel (after.skip 1).token.2
    | some '\x7d' => return { value := ← mappingOf pairs.reverse, cursor := after.skip 1 }
    | _ => none

/-- The value after a colon in a flow collection, which may be missing. -/
def readFlowValue : (fuel : Nat) → Cursor → Option Read
  | 0, _ => none
  | fuel + 1, cursor =>
    match cursor.peek? with
    | some ',' => some { value := .null, cursor }
    | some ']' => some { value := .null, cursor }
    | some '\x7d' => some { value := .null, cursor }
    | _ => readFlow fuel cursor

end

/-! ## Collections by indentation -/

/-- A scalar, an alias or a flow collection, which stands on one line if it is a key. -/
def readSimple (least : Nat) (cursor : Cursor) : Option Read :=
  match cursor.peek? with
  | some '[' => readFlow (2 * cursor.rest.length + 2) cursor
  | some '\x7b' => readFlow (2 * cursor.rest.length + 2) cursor
  | _ => readScalar false least cursor

/-- The key that starts here, and the position after its colon. -/
def readKey? (least : Nat) (cursor : Cursor) : Option (Read × Cursor) := do
  let (name, isNewLine, node) ← anchorHere? cursor
  if isNewLine then none
  let read ← readSimple least node
  let after := read.cursor.skipWhile (· == ' ')
  let source := cursor.rest.take (cursor.rest.length - after.rest.length)
  if !List.elem '\n' source && after.isColon false then
    return (read.named name, (after.skip 1))
  none

mutual

/-- A node whose lines have at least the given column. Where a line has started, or an item of a
sequence, the node may be a block collection. -/
def readBlock (least : Nat) (mayBeBlock : Bool) : (fuel : Nat) → Cursor → Option Read
  | 0, _ => none
  | fuel + 1, cursor =>
    if cursor.isAtEnd || cursor.column < least then some { value := .null, cursor }
    else if cursor.isItem then
      if mayBeBlock then readItems cursor.column false [] fuel cursor else none
    else
      match readKey? least cursor with
      | some _ => if mayBeBlock then readPairs cursor.column [] fuel cursor else none
      | none =>
        match cursor.rest with
        | '|' :: _ => readLiteral false least cursor
        | '>' :: _ => readLiteral true least cursor
        | '&' :: _ => do
          let (name, isNewLine, cursor) ← anchorHere? cursor
          return (← readBlock least isNewLine fuel cursor).named name
        | _ => readSimple least cursor

/-- A block scalar. -/
def readLiteral (isFolded : Bool) (least : Nat) (cursor : Cursor) : Option Read := do
  let (text, cursor) ← readBlockScalar isFolded least (cursor.skip 1)
  return { value := .text text, cursor }

/-- The items of a sequence at a column, after the given ones, which are last first. As the value of
a key at the same column, a sequence ends where another key follows. -/
def readItems (column : Nat) (isUnderKey : Bool) (items : List Value) :
    (fuel : Nat) → Cursor → Option Read
  | 0, _ => none
  | fuel + 1, cursor => do
    let read ← readBlock (column + 1) true fuel (cursor.skip 1).token.2
    let items := read.value :: items
    let after := read.cursor.token.2
    if after.isAtEnd || after.column < column then
      return { value := .list items.reverse, cursor := after }
    if after.column > column then none
    if after.isItem then readItems column isUnderKey items fuel after
    else if isUnderKey then return { value := .list items.reverse, cursor := after }
    else none

/-- The pairs of a mapping at a column, after the given ones, which are last first. -/
def readPairs (column : Nat) (pairs : List Pair) : (fuel : Nat) → Cursor → Option Read
  | 0, _ => none
  | fuel + 1, cursor => do
    let (key, afterColon) ← readKey? (column + 1) cursor
    let (isNewLine, next) := { afterColon with anchors := key.cursor.anchors }.token
    let value ←
      if isNewLine && next.column == column && next.isItem then readItems column true [] fuel next
      else readBlock (column + 1) isNewLine fuel next
    let pairs := { key := key.value, value := value.value, isMerge := key.isMerge } :: pairs
    let after := value.cursor.token.2
    if after.isAtEnd || after.column < column then
      return { value := ← mappingOf pairs.reverse, cursor := after }
    if after.column > column || after.isItem then none
    readPairs column pairs fuel after

end

end MarkdownSite.Yaml
