import MarkdownSite.Toml.Number
import MarkdownSite.Toml.Text

/-!
# Values in TOML

Keys, arrays and inline tables. The value of a key stands on the line of the key; only arrays, and
texts in three quotes, go on over several lines.
-/

namespace MarkdownSite.Toml

open Text

/-- Where a value stands: the keys that lead to it. -/
abbrev Path := List Text

/-- Changes the entries of the table at a path; tables on the way that do not exist are made. In an
array of tables the path goes through the last one. -/
def modifyTable (f : Entries → Option Entries) : Path → Entries → Option Entries
  | [], entries => f entries
  | key :: path, entries =>
    match entries.get? key with
    | none => (modifyTable f path []).map fun inner => entries.insert key (.map inner)
    | some (.map inner) => (modifyTable f path inner).map fun inner => entries.insert key (.map inner)
    | some (.list items) =>
      match items.getLast? with
      | some (.map inner) =>
        (modifyTable f path inner).map fun inner =>
          entries.insert key (.list (items.dropLast ++ [.map inner]))
      | _ => none
    | some _ => none

/-- Adds an entry to a table that has none under its key. -/
def addEntry (key : Text) (v : Value) (entries : Entries) : Option Entries :=
  if (entries.get? key).isSome then none else some (entries.insert key v)

/-! ## Keys -/

/-- A character of a key without quotes. -/
def isKeyChar (c : Char) : Bool := c.isAlphanum || c == '_' || c == '-'

/-- One part of a key, and what follows it. -/
def keyPart? (t : Text) : Option (Text × Text) :=
  let bare := t.takeWhile isKeyChar
  if bare.isEmpty then quotedText? false t else some (bare, t.drop bare.length)

/-- A key, and what follows it; its parts are separated by full stops. -/
def key? : (fuel : Nat) → Text → Option (Path × Text)
  | 0, _ => none
  | fuel + 1, t => do
    let (part, rest) ← keyPart? t
    match skipBlanks rest with
    | '.' :: rest =>
      let (more, rest) ← key? fuel (skipBlanks rest)
      return (part :: more, rest)
    | rest => return ([part], rest)

/-- A key and the equals sign after it, and what follows. -/
def assignedKey? (t : Text) : Option (Path × Text) := do
  let (path, rest) ← key? (t.length + 1) t
  match rest with
  | '=' :: rest => return (path, skipBlanks rest)
  | _ => none

/-! ## Comments -/

/-- What follows a comment; no comment has control characters. -/
def skipComment? (t : Text) : Option Text :=
  match t with
  | '#' :: rest =>
    let comment := rest.takeWhile (· != '\n')
    if comment.any (isForbidden false) then none else some (rest.drop comment.length)
  | t => some t

/-- What follows blanks, line ends and comments. -/
def skipLines? : (fuel : Nat) → Text → Option Text
  | 0, _ => none
  | fuel + 1, t =>
    match t.dropWhile fun c => isTomlBlank c || c == '\n' with
    | '#' :: rest => (skipComment? ('#' :: rest)).bind (skipLines? fuel)
    | t => some t

/-! ## Values -/

/-- A value that is no collection. -/
def scalar? (t : Text) : Option (Value × Text) :=
  match quotedText? true t with
  | some (text, rest) => some (.text text, rest)
  | none =>
    match dropPrefix? "true" t, dropPrefix? "false" t with
    | some rest, _ => some (.bool true, rest)
    | none, some rest => some (.bool false, rest)
    | none, none => number? t

/-- Whether a value is a collection, which cannot be added to once it is written. -/
def isCollection : Value → Bool
  | .list _ => true
  | .map _ => true
  | _ => false

/-- Whether a path goes through one of the given ones. -/
def goesThrough (closed : List Path) (path : Path) : Bool :=
  closed.any fun other => other == path.take other.length

mutual

/-- A value, and what follows it. -/
def value? : (fuel : Nat) → Text → Option (Value × Text)
  | 0, _ => none
  | fuel + 1, t =>
    match t with
    | '[' :: rest => items? [] fuel rest
    | '\x7b' :: rest =>
      match skipBlanks rest with
      | '\x7d' :: rest => some (.map [], rest)
      | rest => pairs? [] [] fuel rest
    | t => scalar? t

/-- The items up to the bracket that closes an array, after the given ones, which are last
first. -/
def items? (items : List Value) : (fuel : Nat) → Text → Option (Value × Text)
  | 0, _ => none
  | fuel + 1, t => do
    match ← skipLines? (t.length + 1) t with
    | ']' :: rest => return (.list items.reverse, rest)
    | t =>
      let (v, rest) ← value? fuel t
      match ← skipLines? (rest.length + 1) rest with
      | ',' :: rest => items? (v :: items) fuel rest
      | ']' :: rest => return (.list (v :: items).reverse, rest)
      | _ => none

/-- The pairs up to the brace that closes an inline table, after the given ones. Nothing can be
added to a collection at one of the `closed` paths. -/
def pairs? (entries : Entries) (closed : List Path) : (fuel : Nat) → Text → Option (Value × Text)
  | 0, _ => none
  | fuel + 1, t => do
    let (path, rest) ← assignedKey? t
    let (v, rest) ← value? fuel rest
    if goesThrough closed path then none
    let entries ← modifyTable (addEntry (path.getLast?.getD []) v) path.dropLast entries
    match skipBlanks rest with
    | ',' :: rest =>
      let closed := if isCollection v then path :: closed else closed
      pairs? entries closed fuel (skipBlanks rest)
    | '\x7d' :: rest => return (.map entries, rest)
    | _ => none

end

end MarkdownSite.Toml
