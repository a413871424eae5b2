import MarkdownSite.Value.Json

/-!
# Plain scalars

What a scalar without quotes stands for: a word for a truth value or for nothing, a number in one of
the notations of YAML 1.1, or else its text.
-/

namespace MarkdownSite.Yaml

open Text

/-- The words that are values, apart from their spelling in other letter case. -/
def wordValues : List (Text × Value) :=
  [("yes", .bool true), ("no", .bool false), ("true", .bool true), ("false", .bool false),
    ("on", .bool true), ("off", .bool false), ("null", .null)]

/-- The spellings of a word: in lower case, with a capital, in upper case. -/
def spellings (word : Text) : List Text :=
  let upper := word.map Char.toUpper
  [word, upper.take 1 ++ word.drop 1, upper]

/-- The value of a word. -/
def wordValue? (t : Text) : Option Value :=
  if t.isEmpty || t == ['~'] then some .null
  else wordValues.findSome? fun (word, v) => if (spellings word).contains t then some v else none

/-- The sign of a number, and what follows. -/
def splitSign (t : Text) : Bool × Text :=
  match t with
  | '-' :: rest => (true, rest)
  | '+' :: rest => (false, rest)
  | t => (false, t)

/-- A number with the sign of another one. -/
def withSign (negative : Bool) (n : Nat) : Int := if negative then -(n : Int) else n

/-- The digits without the underscores between them. -/
def withoutUnderscores (t : Text) : Text := t.filter (· != '_')

/-- Whether a text is digits of a base and underscores, starting with a digit. -/
def isDigitRun (t : Text) : Bool :=
  (t.head?.any Char.isDigit) && t.all fun c => c.isDigit || c == '_'

/-- Whether a part of a number in base sixty is one or two digits, at most 59. -/
def isSixtieth (t : Text) : Bool :=
  match t with
  | [a] => a.isDigit
  | [a, b] => '0' ≤ a && a ≤ '5' && b.isDigit
  | _ => false

/-- The number that parts in base sixty write. -/
def sixtyNumber (parts : List Text) : Nat :=
  parts.foldl (fun n part => n * 60 + (toNatBase? 10 (withoutUnderscores part)).getD 0) 0

/-- The number that a text without sign writes as an integer. -/
def natValue? (t : Text) : Option Nat :=
  let inBase (base : Nat) (digits : Text) : Option Nat :=
    toNatBase? base (withoutUnderscores digits)
  match t with
  | ['0'] => some 0
  | '0' :: 'b' :: digits => inBase 2 digits
  | '0' :: 'x' :: digits => inBase 16 digits
  | '0' :: digits => if digits.all (· == '_') then some 0 else inBase 8 digits
  | t =>
    match splitOn ':' t with
    | [digits] => if isDigitRun digits then inBase 10 digits else none
    | first :: rest =>
      if isDigitRun first && rest.all isSixtieth then some (sixtyNumber (first :: rest)) else none
    | [] => none

/-- The exponent of a number, which has a sign; none is zero. -/
def exponentValue? (t : Text) : Option Int :=
  match t with
  | [] => some 0
  | e :: sign :: digits =>
    if (e = 'e' ∨ e = 'E') ∧ (sign = '-' ∨ sign = '+') then
      (toNatBase? 10 digits).bind fun n =>
        if digits.all Char.isDigit then some (withSign (sign == '-') n) else none
    else none
  | [_] => none

/-- The number that a text writes with a point. -/
def doubleValue? (t : Text) : Option Double := do
  let (negative, rest) := splitSign t
  let (whole, after) ← splitFirst "." rest
  let fraction := after.takeWhile fun c => c.isDigit || c == '_'
  let digits := withoutUnderscores fraction
  let decimal (whole : Nat) (exponent : Int) : Double :=
    let n := whole * tenTo digits.length + (toNatBase? 10 digits).getD 0
    .ofDecimal negative n (exponent - digits.length)
  if whole.isEmpty then
    if (spellings "inf").contains after || after == "Inf".toList then return .infinite negative
    if (t.take 1 == ['.']) && (["nan", "NaN", "NAN"] : List Text).contains after then return .nan
    if t.take 1 != ['.'] || !isDigitRun fraction then none
    return decimal 0 (← exponentValue? (after.drop fraction.length))
  else
    match splitOn ':' whole with
    | [whole] =>
      if !isDigitRun whole then none
      let n := (toNatBase? 10 (withoutUnderscores whole)).getD 0
      return decimal n (← exponentValue? (after.drop fraction.length))
    | first :: rest =>
      if isDigitRun first && rest.all isSixtieth && fraction.length == after.length then
        return decimal (sixtyNumber (first :: rest)) 0
      none
    | [] => none

/-- The value that a plain scalar stands for. The equals sign alone stands for none. -/
def plainValue? (t : Text) : Option Value :=
  if t == ['='] then none
  else
    match wordValue? t with
    | some v => some v
    | none =>
      let (negative, rest) := splitSign t
      match natValue? rest with
      | some n => some (.int (withSign negative n))
      | none =>
        match doubleValue? t with
        | some x => some (.float x)
        | none => some (.text t)

/-- The text of a value as the key of an entry; lists and mappings are no keys. -/
def keyText? : Value → Option Text
  | .text t => some t
  | .list _ => none
  | .map _ => none
  | v => some v.toJson

end MarkdownSite.Yaml
