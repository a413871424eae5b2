import MarkdownSite.Text.Basic

/-!
# Texts in TOML

Texts stand in double quotes, with escapes, or in single quotes, as they are; in three quotes they
may have several lines.
-/

namespace MarkdownSite.Toml

open Text

/-- Space or tab. -/
def isTomlBlank (c : Char) : Bool := c == ' ' || c == '\t'

/-- Drops spaces and tabs. -/
def skipBlanks (t : Text) : Text := t.dropWhile isTomlBlank

/-- A control character that no text may have; a text of several lines has line feeds. -/
def isForbidden (isMultiLine : Bool) (c : Char) : Bool :=
  (c.toNat < 32 || c.toNat == 127) && c != '\t' && !(isMultiLine && c == '\n')

/-- The character that a backslash and a letter write. -/
def simpleEscape? (c : Char) : Option Char :=
  ([('b', '\x08'), ('t', '\t'), ('n', '\n'), ('f', '\x0c'), ('r', '\r'), ('"', '"'), ('\\', '\\')]
    : List (Char × Char)).lookup c

/-- The character with the number that as many hexadecimal digits write, and what follows. -/
def numberEscape? (count : Nat) (t : Text) : Option (Char × Text) := do
  if t.length < count then none
  let n ← toNatBase? 16 (t.take count)
  if (0xD800 ≤ n && n < 0xE000) || n > 0x10FFFF then none
  return (Char.ofNat n, t.drop count)

/-- What follows a backslash at the end of a line: blanks and line ends are left out. -/
def afterLineEscape? (t : Text) : Option Text :=
  match skipBlanks t with
  | [] => some []
  | '\n' :: rest => some (rest.dropWhile fun c => isTomlBlank c || c == '\n')
  | _ => none

/-- The text of an escape after its backslash, and what follows it. -/
def escape? (isMultiLine : Bool) (t : Text) : Option (Text × Text) :=
  match t with
  | 'u' :: rest => (numberEscape? 4 rest).map fun (c, rest) => ([c], rest)
  | 'U' :: rest => (numberEscape? 8 rest).map fun (c, rest) => ([c], rest)
  | c :: rest =>
    if isMultiLine && (isTomlBlank c || c == '\n') then (afterLineEscape? t).map ([], ·)
    else (simpleEscape? c).map fun c => ([c], rest)
  | [] => none

/-- A text up to its closing quotes, and what follows these. -/
def readText (quote : Char) (isMultiLine : Bool) : (fuel : Nat) → Text → Option (Text × Text)
  | 0, _ => none
  | _, [] => none
  | fuel + 1, c :: t =>
    let go (text rest : Text) : Option (Text × Text) :=
      (readText quote isMultiLine fuel rest).map fun (more, rest) => (text ++ more, rest)
    let closing := List.replicate (if isMultiLine then 3 else 1) quote
    match dropPrefix? closing (c :: t) with
    | some rest =>
      -- up to two quotes before the closing ones belong to the text
      let extra := if isMultiLine then (rest.take 2).takeWhile (· == quote) else []
      some (extra, rest.drop extra.length)
    | none =>
      if quote == '"' && c == '\\' then do
        let (text, rest) ← escape? isMultiLine t
        go text rest
      else if isForbidden isMultiLine c then none
      else go [c] t

/-- A text from its opening quote on, and what follows it. -/
def quotedText? (mayHaveLines : Bool) (t : Text) : Option (Text × Text) :=
  match t with
  | quote :: rest =>
    if quote = '"' ∨ quote = '\'' then
      match if mayHaveLines then dropPrefix? [quote, quote] rest else none with
      | some inside =>
        let inside := (dropPrefix? "\n" inside).getD inside
        readText quote true (inside.length + 1) inside
      | none => readText quote false (rest.length + 1) rest
    else none
  | [] => none

end MarkdownSite.Toml
