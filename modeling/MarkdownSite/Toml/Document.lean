import MarkdownSite.Toml.Value

/-!
# Documents in TOML

A document is a list of entries under headings that name tables. A table is named once, and what has
been written as one value cannot be added to.
-/

namespace MarkdownSite.Toml

open Text

/-- What has been read of a document. -/
structure Reader where
  /-- The entries. -/
  entries : Entries := []
  /-- The table that entries go into. -/
  header : Path := []
  /-- Tables that cannot be named again, nor added to by keys with full stops. -/
  named : List Path := []
  /-- Tables made by keys with full stops under the current heading. -/
  dotted : List Path := []
  /-- Collections written as values. -/
  closed : List Path := []

namespace Reader

/-- The state at a new heading. -/
def endSection (r : Reader) : Reader := { r with named := r.dotted ++ r.named, dotted := [] }

/-- A heading that names a table. -/
def openTable (r : Reader) (path : Path) : Option Reader := do
  let r := r.endSection
  if r.named.contains path || goesThrough r.closed path then none
  let entries ← modifyTable some path r.entries
  return { r with entries, header := path, named := path :: r.named }

/-- The entries with one more table in the array of tables under a key. -/
def addTable (key : Text) (entries : Entries) : Option Entries :=
  match entries.get? key with
  | none => some (entries.insert key (.list [.map []]))
  | some (.list items) => some (entries.insert key (.list (items ++ [.map []])))
  | some _ => none

/-- A heading that starts another table of an array. -/
def openArrayTable (r : Reader) (path : Path) : Option Reader := do
  let r := r.endSection
  if goesThrough r.closed path then none
  let isOutside (other : Path) : Bool := other.take path.length != path
  let entries ← modifyTable (addTable (path.getLast?.getD [])) path.dropLast r.entries
  return { r with
    entries, header := path
    named := path :: r.named.filter isOutside
    closed := r.closed.filter isOutside }

/-- An entry under the current heading. -/
def addPair (r : Reader) (path : Path) (v : Value) : Option Reader := do
  let inner := (List.range path.length).drop 1 |>.map fun n => r.header ++ path.take n
  if inner.any r.named.contains then none
  let whole := r.header ++ path
  if goesThrough r.closed whole.dropLast then none
  let entries ← modifyTable (addEntry (path.getLast?.getD []) v) whole.dropLast r.entries
  return { r with
    entries, dotted := inner ++ r.dotted
    closed := if isCollection v then whole :: r.closed else r.closed }

/-- A statement: a heading or an entry, and what follows it. -/
def statement (r : Reader) (t : Text) : Option (Reader × Text) := do
  match t with
  | '[' :: '[' :: rest =>
    let (path, rest) ← key? (rest.length + 1) (skipBlanks rest)
    return (← r.openArrayTable path, ← dropPrefix? "]]" rest)
  | '[' :: rest =>
    let (path, rest) ← key? (rest.length + 1) (skipBlanks rest)
    return (← r.openTable path, ← dropPrefix? "]" rest)
  | t =>
    let (path, rest) ← assignedKey? t
    let (v, rest) ← value? (2 * rest.length + 2) rest
    return (← r.addPair path v, rest)

/-- Reads the lines from here on; `fuel` bounds their number. -/
def readLines (r : Reader) : (fuel : Nat) → Text → Option Reader
  | 0, _ => none
  | fuel + 1, t => do
    let (r, rest) ← match skipBlanks t with
      | [] => some (r, [])
      | '\n' :: rest => some (r, '\n' :: rest)
      | '#' :: rest => some (r, '#' :: rest)
      | t => r.statement t
    match ← skipComment? (skipBlanks rest) with
    | [] => return r
    | '\n' :: rest => readLines r fuel rest
    | _ => none

end Reader

/-- The entries of a document; `none` if the text is no document in TOML. -/
def entries? (t : Text) : Option Entries :=
  let t := replace "\r\n" "\n" t
  (Reader.readLines {} (t.length + 1) t).map Reader.entries

end MarkdownSite.Toml
