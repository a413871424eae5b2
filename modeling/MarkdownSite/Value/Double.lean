import MarkdownSite.Text.Basic

/-!
# Double-precision numbers

Numbers of 53 binary digits, kept as exact integers so that reading, rounding and writing are
plain arithmetic. A number is written with the fewest decimal digits that read back as it.
-/

namespace MarkdownSite

/-- The power of two with the given exponent; one if that is negative. -/
def twoTo (exponent : Int) : Nat := Nat.pow 2 exponent.toNat

/-- The power of ten with the given exponent; one if that is negative. -/
def tenTo (exponent : Int) : Nat := Nat.pow 10 exponent.toNat

/-- A double-precision number. A finite one is `mantissa · 2 ^ exponent` with a sign; the mantissa
is below `2 ^ 53`, and at least `2 ^ 52` unless the exponent is the least one, `-1074`. -/
inductive Double where
  | finite (negative : Bool) (mantissa : Nat) (exponent : Int)
  | infinite (negative : Bool)
  | nan
  deriving DecidableEq, Repr

namespace Double

/-- The quotient of two positive numbers after division by `2 ^ exponent`, as a fraction. -/
def scaled (num den : Nat) (exponent : Int) : Nat × Nat :=
  (num * twoTo (-exponent), den * twoTo exponent)

/-- The integer nearest to a fraction; halves go to the even neighbour. -/
def roundRatio (num den : Nat) : Nat :=
  let floor := num / den
  let rest := 2 * (num % den)
  if rest < den then floor
  else if rest = den then floor + floor % 2
  else floor + 1

/-- The number nearest to a quotient of positive integers. -/
def ofRatio (negative : Bool) (num den : Nat) : Double :=
  let guess : Int := (Nat.log2 num : Int) - Nat.log2 den - 52
  let (n, d) := scaled num den guess
  let exponent := max (if n / d < twoTo 52 then guess - 1 else guess) (-1074)
  let (n, d) := scaled num den exponent
  let rounded := roundRatio n d
  let (mantissa, exponent) :=
    if rounded = twoTo 53 then (twoTo 52, exponent + 1) else (rounded, exponent)
  if exponent > 971 then .infinite negative else .finite negative mantissa exponent

/-- The number nearest to `digits · 10 ^ power`. -/
def ofDecimal (negative : Bool) (digits : Nat) (power : Int) : Double :=
  let size : Int := (Nat.toDigits 10 digits).length + power
  if digits = 0 ∨ size < -330 then .finite negative 0 (-1074)
  else if size > 310 then .infinite negative
  else ofRatio negative (digits * tenTo power) (tenTo (-power))

/-- Whether a number is zero, of either sign. -/
def isZero : Double → Bool
  | finite _ mantissa _ => mantissa == 0
  | _ => false

/-- The integer part of a finite number. -/
def truncate? : Double → Option Int
  | finite negative mantissa exponent =>
    let size : Nat := mantissa * twoTo exponent / twoTo (-exponent)
    some (if negative then -(size : Int) else size)
  | _ => none

/-- Whether a number equals an integer. -/
def isInt (x : Double) (n : Int) : Bool :=
  match x with
  | finite negative mantissa exponent =>
    let num : Int := mantissa * twoTo exponent
    (if negative then -num else num) == n * twoTo (-exponent)
  | _ => false

/-- Whether two numbers are equal; the zeros are, and nothing equals a number that is none. -/
def same (x y : Double) : Bool :=
  match x, y with
  | nan, _ => false
  | _, nan => false
  | _, _ => x == y || (x.isZero && y.isZero)

/-! ## The fewest digits that read back -/

/-- The numbers that round to a positive one lie between these multiples of `2 ^ (exponent - 2)`. -/
def roundingInterval (mantissa : Nat) (exponent : Int) : Nat × Nat :=
  if mantissa = twoTo 52 ∧ exponent > -1074 then (4 * mantissa - 1, 4 * mantissa + 2)
  else (4 * mantissa - 2, 4 * mantissa + 2)

/-- The grid point of `10 ^ power` nearest to the number, if it rounds to it. The number is
`mid · 2 ^ e` and rounding takes in what lies between `low` and `high`, the ends too if `closed`. -/
def gridPoint? (low mid high : Nat) (e : Int) (closed : Bool) (power : Int) : Option Nat :=
  -- all of the comparison happens in units of `2 ^ e / 10 ^ p` with both powers made positive
  let unit := tenTo power * twoTo (-e)
  let factor := twoTo e * tenTo (-power)
  let floor := mid * factor / unit
  let inside (point : Nat) : Bool :=
    let x := point * unit
    if closed then low * factor ≤ x && x ≤ high * factor else low * factor < x && x < high * factor
  let below := mid * factor - floor * unit
  let above := (floor + 1) * unit - mid * factor
  match inside floor && floor != 0, inside (floor + 1) with
  | true, true =>
    if below < above ∨ (below = above ∧ floor % 2 = 0) then some floor else some (floor + 1)
  | true, false => some floor
  | false, true => some (floor + 1)
  | false, false => none

/-- The first grid with a point that rounds to the number, trying `tries` grids from `10 ^ power`
on, each ten times finer than the one before. -/
def shortestFrom (low mid high : Nat) (e : Int) (closed : Bool) :
    (tries : Nat) → (power : Int) → Nat × Int
  | 0, power => (mid * twoTo e * tenTo (-power) / (tenTo power * twoTo (-e)), power)
  | tries + 1, power =>
    match gridPoint? low mid high e closed power with
    | some point => (point, power)
    | none => shortestFrom low mid high e closed tries (power - 1)

/-- The power of ten at or below a positive number. -/
def decimalOrder (mantissa : Nat) (exponent : Int) : Int :=
  let size := mantissa * twoTo exponent * tenTo 350 / twoTo (-exponent)
  (Nat.toDigits 10 size).length - 351

/-- The decimal digits of a positive number and the power of ten of the last one: as few digits as
read back, and of those the nearest. -/
def shortest (mantissa : Nat) (exponent : Int) : Nat × Int :=
  let (low, high) := roundingInterval mantissa exponent
  shortestFrom low (4 * mantissa) high (exponent - 2) (mantissa % 2 == 0) 18
    (decimalOrder mantissa exponent)

/-- Digits with the point after the first `whole` of them. -/
def placePoint (digits : Text) (whole : Nat) : Text :=
  digits.take whole ++ List.replicate (whole - digits.length) '0' ++ '.'
    :: (if digits.length ≤ whole then ['0'] else digits.drop whole)

/-- The exponent with its sign and at least two digits. -/
def exponentText (order : Int) : Text :=
  let digits := Text.ofNat order.natAbs
  (if order < 0 then '-' else '+') :: List.replicate (2 - digits.length) '0' ++ digits

/-- The text of a positive number whose first digit stands for `10 ^ order`: with a point from
`10 ^ -4` to below `10 ^ 16`, with an exponent elsewhere. -/
def layOut (digits : Text) (order : Int) : Text :=
  if -4 ≤ order ∧ order < 0 then
    "0." ++ List.replicate (order.natAbs - 1) '0' ++ digits
  else if 0 ≤ order ∧ order < 16 then placePoint digits (order.toNat + 1)
  else
    let fraction := digits.drop 1
    digits.take 1 ++ (if fraction.isEmpty then [] else '.' :: fraction) ++ 'e' :: exponentText order

/-- The text of a number: the fewest digits that read back. -/
def toText : Double → Text
  | nan => "nan"
  | infinite negative => if negative then "-inf" else "inf"
  | finite negative mantissa exponent =>
    (if negative then ['-'] else []) ++
      if mantissa = 0 then ['0', '.', '0']
      else
        let (digits, power) := shortest mantissa exponent
        let text := Text.ofNat digits
        let significant := Text.stripEndWhere (· == '0') text
        layOut significant (power + text.length - 1)

end Double

end MarkdownSite
