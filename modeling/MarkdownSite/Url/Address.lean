import MarkdownSite.Text.Basic

/-!
# Numeric addresses in brackets

A host in square brackets is an IP address of version 6 or of a future version. Only whether it is
one matters here, not which.
-/

namespace MarkdownSite.Url

open Text

/-- One decimal part of an address of version 4: no leading zero, at most 255. -/
def isDecimalOctet (t : Text) : Bool :=
  t.all Char.isDigit && 1 ≤ t.length && t.length ≤ 3
    && (t.length == 1 || t.head? != some '0')
    && ((toNatBase? 10 t).getD 256) ≤ 255

/-- Four decimal parts with full stops between them. -/
def isAddress4 (t : Text) : Bool :=
  let parts := splitOn '.' t
  parts.length == 4 && parts.all isDecimalOctet

/-- One to four hexadecimal digits. -/
def isHextet (t : Text) : Bool :=
  1 ≤ t.length && t.length ≤ 4 && t.all fun c => (hexDigit? c).isSome

/-- The parts between colons: eight of them, or fewer around one empty place that stands for the
missing ones. -/
def areHextets (parts : List Text) : Bool :=
  let inner := (parts.drop 1).dropLast
  match (inner.filter List.isEmpty).length with
  | 0 => parts.length == 8 && parts.all isHextet
  | 1 =>
    let high := parts.takeWhile fun part => !part.isEmpty
    let leadingEmpty := parts.head? == some []
    let trailingEmpty := parts.getLast? == some []
    -- an empty first or last part belongs to a pair of colons at that end
    let highParts := if leadingEmpty then [] else high
    let gap := if leadingEmpty then 1 else high.length
    let lowParts := parts.drop (gap + 1)
    let lowParts := if trailingEmpty then lowParts.dropLast else lowParts
    (!leadingEmpty || gap == 1 && parts[1]? == some [])
      && (!trailingEmpty || lowParts.isEmpty)
      && highParts.all isHextet && lowParts.all isHextet
      && highParts.length + lowParts.length < 8
  | _ => false

/-- An address of version 6 without a zone. -/
def isBareAddress6 (t : Text) : Bool :=
  let parts := splitOn ':' t
  if parts.length < 3 then false
  else
    match parts.getLast? with
    | some last =>
      if List.contains last '.' then
        isAddress4 last && parts.length ≤ 8 && areHextets (parts.dropLast ++ [['0'], ['0']])
      else parts.length ≤ 9 && areHextets parts
    | none => false

/-- An address of version 6; a zone may follow a percent sign. -/
def isAddress6 (t : Text) : Bool :=
  if List.contains t '/' then false
  else
    match splitFirst "%" t with
    | some (address, zone) => !zone.isEmpty && !List.contains zone '%' && isBareAddress6 address
    | none => isBareAddress6 t

/-- An address of a future version: `v`, hexadecimal digits, a full stop and more on one line. -/
def isFutureAddress (t : Text) : Bool :=
  match t with
  | 'v' :: t =>
    let digits := t.takeWhile fun c => (hexDigit? c).isSome
    match t.drop digits.length with
    | '.' :: rest => !digits.isEmpty && !rest.isEmpty && !List.contains rest '\n'
    | _ => false
  | _ => false

end MarkdownSite.Url
