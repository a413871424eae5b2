import MarkdownSite.Text.Quoted
import MarkdownSite.Value.Basic

/-!
# Values in JSON

Reading and writing of JSON. A number without point and exponent is an integer, of any size; other
numbers are double-precision. Beyond the standard, `NaN`, `Infinity` and `-Infinity` are numbers.
A key that is given twice keeps its place and takes the later value.
-/

namespace MarkdownSite.Value

open Text

/-! ## Reading -/

/-- Drops the blanks between tokens. -/
def skipJsonBlanks (t : Text) : Text :=
  t.dropWhile fun c => c == ' ' || c == '\t' || c == '\n' || c == '\r'

/-- The UTF-16 unit that four hexadecimal digits write. -/
def readUnit? : Text → Option (Nat × Text)
  | a :: b :: c :: d :: t => (toNatBase? 16 [a, b, c, d]).map (·, t)
  | _ => none

/-- The character of an escape by number, which may take two units. Half a pair alone gives the
replacement character. -/
def readEscapedUnit? (t : Text) : Option (Char × Text) := do
  let (first, rest) ← readUnit? t
  if 0xD800 ≤ first ∧ first < 0xDC00 then
    match rest with
    | '\\' :: 'u' :: more =>
      let (second, after) ← readUnit? more
      if 0xDC00 ≤ second ∧ second < 0xE000 then
        return (Char.ofNat (0x10000 + (first - 0xD800) * 0x400 + (second - 0xDC00)), after)
      return ('\uFFFD', rest)
    | _ => return ('\uFFFD', rest)
  if 0xDC00 ≤ first ∧ first < 0xE000 then return ('\uFFFD', rest)
  return (Char.ofNat first, rest)

/-- The character that a backslash and a letter write. -/
def simpleEscape? (c : Char) : Option Char :=
  match c with
  | '"' => some '"'
  | '\\' => some '\\'
  | '/' => some '/'
  | 'b' => some '\x08'
  | 'f' => some '\x0c'
  | 'n' => some '\n'
  | 'r' => some '\r'
  | 't' => some '\t'
  | _ => none

/-- The text up to the closing quote, and what follows the quote. -/
def readJsonString : (fuel : Nat) → Text → Option (Text × Text)
  | 0, _ => none
  | _ + 1, [] => none
  | _ + 1, '"' :: t => some ([], t)
  | fuel + 1, '\\' :: 'u' :: t => do
    let (c, rest) ← readEscapedUnit? t
    let (chars, rest) ← readJsonString fuel rest
    return (c :: chars, rest)
  | fuel + 1, '\\' :: e :: t => do
    let c ← simpleEscape? e
    let (chars, rest) ← readJsonString fuel t
    return (c :: chars, rest)
  | fuel + 1, c :: t =>
    if c.toNat < 32 ∨ c = '\\' then none
    else (readJsonString fuel t).map fun (chars, rest) => (c :: chars, rest)

/-- The digits at the start of a text, and the rest. -/
def spanDigits (t : Text) : Text × Text := (t.takeWhile Char.isDigit, t.dropWhile Char.isDigit)

/-- The digits after a point, if a point and digits come next. -/
def readFraction (t : Text) : Option Text × Text :=
  match t with
  | '.' :: rest =>
    let (digits, after) := spanDigits rest
    if digits.isEmpty then (none, t) else (some digits, after)
  | _ => (none, t)

/-- The exponent, if one comes next. -/
def readExponent (t : Text) : Option Int × Text :=
  match t with
  | e :: rest =>
    if e = 'e' ∨ e = 'E' then
      let (negative, unsigned) := match rest with
        | '-' :: r => (true, r)
        | '+' :: r => (false, r)
        | r => (false, r)
      let (digits, after) := spanDigits unsigned
      match toNatBase? 10 digits with
      | some n => (some (if negative then -(n : Int) else n), after)
      | none => (none, t)
    else (none, t)
  | [] => (none, t)

/-- The number with the given sign, whole digits, fraction and exponent. -/
def numberOf (negative : Bool) (whole : Text) (fraction : Option Text) (exponent : Option Int) :
    Value :=
  let digits := (toNatBase? 10 (whole ++ fraction.getD [])).getD 0
  match fraction, exponent with
  | none, none => .int (if negative then -(digits : Int) else digits)
  | _, _ => .float (.ofDecimal negative digits (exponent.getD 0 - (fraction.getD []).length))

/-- A number without its sign. -/
def readJsonNumber (negative : Bool) (t : Text) : Option (Value × Text) :=
  let (whole, rest) := match t with
    | '0' :: rest => (['0'], rest)
    | _ => spanDigits t
  if whole.isEmpty then none
  else
    let (fraction, rest) := readFraction rest
    let (exponent, rest) := readExponent rest
    some (numberOf negative whole fraction exponent, rest)

/-- The words and numbers that may stand for a value. -/
def readJsonScalar (t : Text) : Option (Value × Text) :=
  match t with
  | '-' :: rest =>
    match dropPrefix? "Infinity" rest with
    | some after => some (.float (.infinite true), after)
    | none => readJsonNumber true rest
  | _ =>
    let words : List (Text × Value) :=
      [("null", .null), ("true", .bool true), ("false", .bool false), ("NaN", .float .nan),
        ("Infinity", .float (.infinite false))]
    match words.findSome? fun (word, v) => (dropPrefix? word t).map (v, ·) with
    | some result => some result
    | none => readJsonNumber false t

mutual

/-- A value at the start of a text, and the rest. -/
def readJson : (fuel : Nat) → Text → Option (Value × Text)
  | 0, _ => none
  | fuel + 1, t =>
    match t with
    | '"' :: rest => (readJsonString (rest.length + 1) rest).map fun (s, r) => (.text s, r)
    | '[' :: rest =>
      match skipJsonBlanks rest with
      | ']' :: after => some (.list [], after)
      | rest => (readJsonItems fuel rest).map fun (items, r) => (.list items, r)
    | '\x7b' :: rest =>
      match skipJsonBlanks rest with
      | '\x7d' :: after => some (.map [], after)
      | rest => (readJsonMembers fuel rest).map fun (pairs, r) => (.map (Entries.ofList pairs), r)
    | _ => readJsonScalar t

/-- The values up to the bracket that closes a list. -/
def readJsonItems : (fuel : Nat) → Text → Option (List Value × Text)
  | 0, _ => none
  | fuel + 1, t => do
    let (v, rest) ← readJson fuel (skipJsonBlanks t)
    match skipJsonBlanks rest with
    | ',' :: more =>
      let (items, rest) ← readJsonItems fuel more
      return (v :: items, rest)
    | ']' :: rest => return ([v], rest)
    | _ => none

/-- The entries up to the brace that closes a mapping. -/
def readJsonMembers : (fuel : Nat) → Text → Option (List (Text × Value) × Text)
  | 0, _ => none
  | fuel + 1, t => do
    match skipJsonBlanks t with
    | '"' :: rest =>
      let (key, rest) ← readJsonString (rest.length + 1) rest
      match skipJsonBlanks rest with
      | ':' :: rest =>
        let (v, rest) ← readJson fuel (skipJsonBlanks rest)
        match skipJsonBlanks rest with
        | ',' :: more =>
          let (pairs, rest) ← readJsonMembers fuel more
          return ((key, v) :: pairs, rest)
        | '\x7d' :: rest => return ([(key, v)], rest)
        | _ => none
      | _ => none
    | _ => none

end

/-- The value that a text writes in JSON, if it writes one. -/
def ofJson? (t : Text) : Option Value :=
  match readJson (t.length + 1) (skipJsonBlanks t) with
  | some (v, rest) => if (skipJsonBlanks rest).isEmpty then some v else none
  | none => none

/-! ## Writing -/

/-- A character inside the quotes of a JSON string. -/
def jsonChar (c : Char) : Text :=
  if c = '"' then "\\\""
  else if c = '\\' then "\\\\"
  else if c = '\n' then "\\n"
  else if c = '\r' then "\\r"
  else if c = '\t' then "\\t"
  else if c = '\x08' then "\\b"
  else if c = '\x0c' then "\\f"
  else if c.toNat < 32 then "\\u" ++ hex 4 c.toNat
  else [c]

/-- A text as a JSON string. -/
def jsonString (t : Text) : Text := '"' :: t.flatMap jsonChar ++ ['"']

/-- A double-precision number in JSON, with the words beyond the standard. -/
def jsonFloat (x : Double) : Text :=
  match x with
  | .nan => "NaN"
  | .infinite negative => if negative then "-Infinity" else "Infinity"
  | x => x.toText

mutual

/-- A value in JSON. -/
def toJson : Value → Text
  | null => "null"
  | bool b => if b then "true" else "false"
  | int n => Text.ofInt n
  | float x => jsonFloat x
  | text t => jsonString t
  | list items => '[' :: join ", " (itemsToJson items) ++ [']']
  | map entries => '\x7b' :: join ", " (entriesToJson entries) ++ ['\x7d']

/-- The values of a list in JSON. -/
def itemsToJson : List Value → List Text
  | [] => []
  | v :: rest => v.toJson :: itemsToJson rest

/-- The entries of a mapping in JSON. -/
def entriesToJson : List (Text × Value) → List Text
  | [] => []
  | (key, v) :: rest => (jsonString key ++ ": " ++ v.toJson) :: entriesToJson rest

end

end MarkdownSite.Value
