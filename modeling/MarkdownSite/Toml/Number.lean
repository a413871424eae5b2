import MarkdownSite.Value.Json

/-!
# Numbers and dates in TOML

Numbers may have underscores between their digits. Dates and times are kept as they are written.
-/

namespace MarkdownSite.Toml

open Text

/-- Digits with single underscores between them, and what follows. -/
def digitRun (isDigit : Char → Bool) : Text → Text × Text
  | '_' :: d :: t =>
    if isDigit d then
      let (digits, rest) := digitRun isDigit t
      (d :: digits, rest)
    else ([], '_' :: d :: t)
  | d :: t =>
    if isDigit d then
      let (digits, rest) := digitRun isDigit t
      (d :: digits, rest)
    else ([], d :: t)
  | [] => ([], [])

/-- Digits as `digitRun` has them, at least one and starting with a digit. -/
def digits? (isDigit : Char → Bool) (t : Text) : Option (Text × Text) :=
  if t.head?.any isDigit then some (digitRun isDigit t) else none

/-- A number in a base that a letter after a zero names. -/
def baseNumber? (t : Text) : Option (Value × Text) := do
  let rest ← dropPrefix? ['0'] t
  let (base, rest) ← match rest with
    | 'x' :: rest => some (16, rest)
    | 'o' :: rest => some (8, rest)
    | 'b' :: rest => some (2, rest)
    | _ => none
  let isDigit (c : Char) : Bool := (hexDigit? c).any (· < base)
  let (digits, rest) ← digits? isDigit rest
  return (.int (← toNatBase? base digits), rest)

/-- The sign at the start of a number: whether it is negative, and what follows. -/
def splitSign (t : Text) : Bool × Text :=
  match t with
  | '-' :: rest => (true, rest)
  | '+' :: rest => (false, rest)
  | t => (false, t)

/-- A fraction, if a point and digits come next. -/
def fraction (t : Text) : Option Text × Text :=
  match t with
  | '.' :: rest =>
    match digits? Char.isDigit rest with
    | some (digits, after) => (some digits, after)
    | none => (none, t)
  | t => (none, t)

/-- An exponent, if one comes next. -/
def exponent (t : Text) : Option Int × Text :=
  match t with
  | e :: rest =>
    let (negative, unsigned) := splitSign rest
    match if e = 'e' ∨ e = 'E' then digits? Char.isDigit unsigned else none with
    | some (digits, after) =>
      let n := (toNatBase? 10 digits).getD 0
      (some (if negative then -(n : Int) else n), after)
    | none => (none, t)
  | [] => (none, [])

/-- A decimal number. -/
def decimalNumber? (t : Text) : Option (Value × Text) := do
  let (negative, unsigned) := splitSign t
  let (whole, rest) ← match unsigned with
    | '0' :: rest => some (['0'], rest)
    | unsigned => digits? Char.isDigit unsigned
  let (fraction, rest) := fraction rest
  let (exponent, rest) := exponent rest
  return (.numberOf negative whole fraction exponent, rest)

/-- Numbers that are no digits. -/
def specialNumber? (t : Text) : Option (Value × Text) :=
  let (negative, unsigned) := splitSign t
  match dropPrefix? "inf" unsigned with
  | some rest => some (.float (.infinite negative), rest)
  | none => (dropPrefix? "nan" unsigned).map fun rest => (.float .nan, rest)

/-- Whether a text has digits where the pattern has zeros, and else the characters of the
pattern. -/
def fitsPattern : (pattern t : Text) → Bool
  | [], _ => true
  | _, [] => false
  | p :: pattern, c :: t => (if p = '0' then c.isDigit else c == p) && fitsPattern pattern t

/-- The length of a time at the start of a text. -/
def timeLength? (t : Text) : Option Nat :=
  if fitsPattern "00:00:00" t then
    match t.drop 8 with
    | '.' :: rest =>
      let digits := rest.takeWhile Char.isDigit
      some (if digits.isEmpty then 8 else 9 + digits.length)
    | _ => some 8
  else none

/-- The length of the offset of a time at the start of a text; there may be none. -/
def offsetLength (t : Text) : Nat :=
  match t with
  | c :: rest =>
    if c = 'Z' ∨ c = 'z' then 1
    else if (c = '+' ∨ c = '-') ∧ fitsPattern "00:00" rest then 6
    else 0
  | [] => 0

/-- A date, a time, or both. -/
def date? (t : Text) : Option (Value × Text) :=
  let length? : Option Nat :=
    if fitsPattern "0000-00-00" t then
      let time := match t.drop 10 with
        | c :: rest => if c = 'T' ∨ c = 't' ∨ c = ' ' then timeLength? rest else none
        | [] => none
      match time with
      | some n => some (11 + n + offsetLength (t.drop (11 + n)))
      | none => some 10
    else timeLength? t
  length?.map fun length => (.text (t.take length), t.drop length)

/-- A number or a date. -/
def number? (t : Text) : Option (Value × Text) :=
  [date?, baseNumber?, decimalNumber?, specialNumber?].findSome? fun read => read t

end MarkdownSite.Toml
