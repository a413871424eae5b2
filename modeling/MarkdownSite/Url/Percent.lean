import MarkdownSite.Text.Entity

/-!
# Percent encoding

A percent sign and two hexadecimal digits write one byte of the UTF-8 form of a text. Reading
never fails: a percent sign without two digits stands for itself, and bytes that are no UTF-8
become replacement characters, one for each longest broken sequence. Encoding never fails either,
for a text has characters only; a string with a surrogate that stands alone has no bytes, and is
treated apart. Documents keep the targets of links in this form.
-/

namespace MarkdownSite.Url

open Text

/-- A character begun by a lead byte: the bits read so far, how many continuation bytes are to
come, and the range of the next one. -/
structure PendingChar where
  /-- The bits read so far. -/
  bits : Nat
  /-- Continuation bytes still to come, less one. -/
  more : Nat
  /-- Least value of the next byte. -/
  least : Nat
  /-- Greatest value of the next byte. -/
  greatest : Nat

/-- What a byte at the start of a character gives: text at once, or a character begun. -/
def startChar (byte : UInt8) : Text × Option PendingChar :=
  let b := byte.toNat
  if b < 0x80 then ([Char.ofNat b], none)
  else if 0xC2 ≤ b ∧ b ≤ 0xDF then ([], some ⟨b - 0xC0, 0, 0x80, 0xBF⟩)
  else if b = 0xE0 then ([], some ⟨0, 1, 0xA0, 0xBF⟩)
  else if b = 0xED then ([], some ⟨0xD, 1, 0x80, 0x9F⟩)
  else if 0xE1 ≤ b ∧ b ≤ 0xEF then ([], some ⟨b - 0xE0, 1, 0x80, 0xBF⟩)
  else if b = 0xF0 then ([], some ⟨0, 2, 0x90, 0xBF⟩)
  else if 0xF1 ≤ b ∧ b ≤ 0xF3 then ([], some ⟨b - 0xF0, 2, 0x80, 0xBF⟩)
  else if b = 0xF4 then ([], some ⟨4, 2, 0x80, 0x8F⟩)
  else (['\uFFFD'], none)

/-- The text of the bytes after a character begun. -/
def decodeBytesFrom : Option PendingChar → List UInt8 → Text
  | none, [] => []
  | some _, [] => ['\uFFFD']
  | none, b :: rest =>
    let (t, pending) := startChar b
    t ++ decodeBytesFrom pending rest
  | some p, b :: rest =>
    if p.least ≤ b.toNat ∧ b.toNat ≤ p.greatest then
      let bits := p.bits * 64 + (b.toNat - 0x80)
      match p.more with
      | 0 => Char.ofNat bits :: decodeBytesFrom none rest
      | more + 1 => decodeBytesFrom (some ⟨bits, more, 0x80, 0xBF⟩) rest
    else
      let (t, pending) := startChar b
      '\uFFFD' :: t ++ decodeBytesFrom pending rest

/-- The text of a sequence of bytes, with replacement characters for what is no UTF-8. -/
def decodeBytes (bytes : List UInt8) : Text := decodeBytesFrom none bytes

/-- The text with its percent escapes decoded. `pending` holds, last first, the bytes of the run
of ASCII characters and escapes that is being read; other characters stand for themselves and end
the run. -/
def percentDecodeFrom (pending : List UInt8) : Text → Text
  | [] => decodeBytes pending.reverse
  | '%' :: a :: b :: t =>
    match hexDigit? a, hexDigit? b with
    | some high, some low => percentDecodeFrom (UInt8.ofNat (high * 16 + low) :: pending) t
    | _, _ => percentDecodeFrom (37 :: pending) (a :: b :: t)
  | c :: t =>
    if c.toNat < 128 then percentDecodeFrom (UInt8.ofNat c.toNat :: pending) t
    else decodeBytes pending.reverse ++ c :: percentDecodeFrom [] t

/-- The text with its percent escapes decoded. -/
def percentDecode (t : Text) : Text := percentDecodeFrom [] t

/-- A hexadecimal digit, letters in upper case. -/
def hexUpper (n : Nat) : Char := if n < 10 then Char.ofNat (48 + n) else Char.ofNat (55 + n)

/-- The percent escape of a byte. -/
def percentByte (b : UInt8) : Text := ['%', hexUpper (b.toNat / 16), hexUpper (b.toNat % 16)]

/-- Letters, digits and the marks `_.-~`, which no encoder escapes. -/
def isUnreserved (c : Char) : Bool := c.isAlphanum || c == '_' || c == '.' || c == '-' || c == '~'

/-- Escapes the bytes of each character that is neither unreserved nor among `safe`, a set of
ASCII characters. -/
def percentEncode (safe t : Text) : Text :=
  t.flatMap fun c =>
    if isUnreserved c || List.contains safe c then [c]
    else (String.utf8EncodeChar c).flatMap percentByte

/-! ## Link targets -/

/-- The characters of link targets that stand for themselves, besides the unreserved ones. -/
def targetCharacters : Text := ":/?#@!$&()*+,;=%"

/-- The target that a document names by the given text: its references decoded, and all characters
escaped that may not stand in a URL. -/
def target (t : Text) : Text := percentEncode targetCharacters (decodeStrictEntities t)

end MarkdownSite.Url
