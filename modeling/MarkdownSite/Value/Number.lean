import MarkdownSite.Value.Basic

/-!
# Numbers in values

The integer that a value stands for: an integer itself, a truth value as one or zero, the whole
part of a number with a fraction, and a text of decimal digits of any script.
-/

namespace MarkdownSite

namespace Text

/-- The zeros of the scripts that have decimal digits; the other nine digits follow each. -/
def zeroDigits : List Nat :=
  [0x30, 0x660, 0x6F0, 0x7C0, 0x966, 0x9E6, 0xA66, 0xAE6, 0xB66, 0xBE6, 0xC66, 0xCE6, 0xD66,
    0xDE6, 0xE50, 0xED0, 0xF20, 0x1040, 0x1090, 0x17E0, 0x1810, 0x1946, 0x19D0, 0x1A80, 0x1A90,
    0x1B50, 0x1BB0, 0x1C40, 0x1C50, 0xA620, 0xA8D0, 0xA900, 0xA9D0, 0xA9F0, 0xAA50, 0xABF0,
    0xFF10, 0x104A0, 0x10D30, 0x11066, 0x110F0, 0x11136, 0x111D0, 0x112F0, 0x11450, 0x114D0,
    0x11650, 0x116C0, 0x11730, 0x118E0, 0x11950, 0x11C50, 0x11D50, 0x11DA0, 0x16A60, 0x16AC0,
    0x16B50, 0x1D7CE, 0x1D7D8, 0x1D7E2, 0x1D7EC, 0x1D7F6, 0x1E140, 0x1E2F0, 0x1E950, 0x1FBF0]

/-- The value of a decimal digit of any script. -/
def decimalDigit? (c : Char) : Option Nat :=
  (zeroDigits.find? fun first => first ≤ c.toNat && c.toNat ≤ first + 9).map (c.toNat - ·)

/-- The number that decimal digits write, after those that gave `value`; one underscore may stand
between two digits. -/
def readDigits (value : Nat) : Text → Option Nat
  | [] => some value
  | ['_'] => none
  | '_' :: c :: t => (decimalDigit? c).bind fun d => readDigits (value * 10 + d) t
  | c :: t => (decimalDigit? c).bind fun d => readDigits (value * 10 + d) t

/-- The number that a nonempty text of decimal digits writes. -/
def toNat? : Text → Option Nat
  | [] => none
  | c :: t => (decimalDigit? c).bind fun d => readDigits d t

/-- The integer that a text writes, with or without a sign and blanks around it. -/
def toInt? (t : Text) : Option Int :=
  match trim t with
  | '-' :: digits => (toNat? digits).map fun n => -(n : Int)
  | '+' :: digits => (toNat? digits).map Int.ofNat
  | digits => (toNat? digits).map Int.ofNat

end Text

namespace Value

/-- What reading an integer from a value gives. -/
inductive IntReading where
  /-- The value stands for an integer. -/
  | number (n : Int)
  /-- The value stands for no integer. -/
  | notNumber
  /-- The value is an infinite number. -/
  | infinite
  deriving DecidableEq, Repr

/-- The integer that a value stands for. -/
def readInt : Value → IntReading
  | bool b => .number (if b then 1 else 0)
  | int n => .number n
  | float (.infinite _) => .infinite
  | float x => match x.truncate? with | some n => .number n | none => .notNumber
  | text t => match Text.toInt? t with | some n => .number n | none => .notNumber
  | _ => .notNumber

end Value

end MarkdownSite
