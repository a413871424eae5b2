/-!
# Text

Text is processed as the list of its characters, so that every operation on it is an ordinary
function on lists. This module holds the type and the operations that cut, search and replace.
-/

namespace MarkdownSite

/-- A text, as the list of its characters; no surrogate stands alone in it. -/
abbrev Text := List Char

instance : Coe String Text := ⟨String.toList⟩

namespace Text

/-- The text as a string. -/
def toString (t : Text) : String := String.ofList t

/-- What follows `p` in `t`, if `t` starts with `p`. -/
def dropPrefix? : (p t : Text) → Option Text
  | [], t => some t
  | _ :: _, [] => none
  | a :: p, b :: t => if a = b then dropPrefix? p t else none

/-- Whether `t` starts with `p`. -/
def startsWith (p t : Text) : Bool := (dropPrefix? p t).isSome

/-- What precedes `p` in `t`, if `t` ends with `p`. -/
def dropSuffix? (p t : Text) : Option Text :=
  (dropPrefix? p.reverse t.reverse).map List.reverse

/-- Whether `t` ends with `p`. -/
def endsWith (p t : Text) : Bool := (dropSuffix? p t).isSome

/-- The parts of `t` before and after the first place where `p` stands, if it stands anywhere. -/
def splitFirst (p : Text) : Text → Option (Text × Text)
  | [] => if p = [] then some ([], []) else none
  | c :: t =>
    match dropPrefix? p (c :: t) with
    | some rest => some ([], rest)
    | none => (splitFirst p t).map fun (before, after) => (c :: before, after)

/-- Whether `p` stands anywhere in `t`. -/
def contains (p t : Text) : Bool := (splitFirst p t).isSome

/-- The parts of `t` before and after the last place where the character `c` stands. -/
def splitLast (c : Char) (t : Text) : Option (Text × Text) :=
  (splitFirst [c] t.reverse).map fun (after, before) => (before.reverse, after.reverse)

/-- Replaces `p` by `r` at each place where it stands, from left to right; `skip` characters
belong to a place already replaced. -/
def replaceFrom (p r : Text) : (skip : Nat) → Text → Text
  | _, [] => []
  | skip + 1, _ :: t => replaceFrom p r skip t
  | 0, c :: t =>
    if startsWith p (c :: t) then r ++ replaceFrom p r (p.length - 1) t
    else c :: replaceFrom p r 0 t

/-- Replaces the nonempty `p` by `r` at each place where it stands, from left to right. -/
def replace (p r t : Text) : Text := replaceFrom p r 0 t

/-- Replaces each character `a` by the character `b`. -/
def replaceChar (a b : Char) (t : Text) : Text := t.map fun c => if c = a then b else c

/-- The pieces of `t` between the characters that satisfy `p`; always at least one piece. -/
def splitWhere (p : Char → Bool) : Text → List Text
  | [] => [[]]
  | c :: t =>
    if p c then [] :: splitWhere p t
    else
      match splitWhere p t with
      | [] => [[c]]
      | piece :: rest => (c :: piece) :: rest

/-- The pieces of `t` between the places where the character `c` stands. -/
def splitOn (c : Char) (t : Text) : List Text := splitWhere (· == c) t

/-- The texts one after another, with `sep` between neighbours. -/
def join (sep : Text) : List Text → Text
  | [] => []
  | [t] => t
  | t :: rest => t ++ sep ++ join sep rest

/-- Drops from both ends the characters that satisfy `p`. -/
def stripWhere (p : Char → Bool) (t : Text) : Text :=
  ((t.dropWhile p).reverse.dropWhile p).reverse

/-- Drops from the end the characters that satisfy `p`. -/
def stripEndWhere (p : Char → Bool) (t : Text) : Text := (t.reverse.dropWhile p).reverse

/-- The first line of `t` with the line feed that ends it, and the rest. -/
def takeLine : Text → Text × Text
  | [] => ([], [])
  | c :: t => if c = '\n' then ([c], t) else let (line, rest) := takeLine t; (c :: line, rest)

/-- The decimal digits of a number. -/
def ofNat (n : Nat) : Text := Nat.toDigits 10 n

/-- The decimal digits of an integer, after a minus sign if it is negative. -/
def ofInt : Int → Text
  | .ofNat n => ofNat n
  | .negSucc n => '-' :: ofNat (n + 1)

/-- The value of a hexadecimal digit. -/
def hexDigit? (c : Char) : Option Nat :=
  if '0' ≤ c ∧ c ≤ '9' then some (c.toNat - 48)
  else if 'a' ≤ c ∧ c ≤ 'f' then some (c.toNat - 87)
  else if 'A' ≤ c ∧ c ≤ 'F' then some (c.toNat - 55)
  else none

/-- The number that the digits of `t` write in base `base`; `none` if one is no such digit or
there is none. -/
def toNatBase? (base : Nat) (t : Text) : Option Nat :=
  if t.isEmpty then none
  else t.foldlM (fun n c =>
    (hexDigit? c).bind fun d => if d < base then some (n * base + d) else none) 0

/-- Whether `t` has ASCII characters only. -/
def isAscii (t : Text) : Bool := t.all fun c => c.toNat < 128

/-- The lower case of the ASCII letters, other characters unchanged. -/
def asciiLower (t : Text) : Text := t.map Char.toLower

end Text

end MarkdownSite
