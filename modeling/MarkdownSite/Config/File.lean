import MarkdownSite.Url.Percent

/-!
# Files

A host finds a file by its path. The text of a file comes in pieces: its bytes are decoded a block
at a time, so that what stands before a block that is no UTF-8 has come when the decoder fails.
-/

namespace MarkdownSite

open Text

/-! ## Paths -/

/-- The slashes that an absolute path starts with: two stay two, and more are one. -/
def pathRoot (path : Text) : Text :=
  match path with
  | '/' :: '/' :: '/' :: _ => ['/']
  | '/' :: '/' :: _ => ['/', '/']
  | '/' :: _ => ['/']
  | _ => []

/-- The path without parts that mean nothing; a path of such parts alone is a full stop. -/
def cleanPath (path : Text) : Text :=
  let parts := (splitOn '/' path).filter fun part => !part.isEmpty && part != ['.']
  let clean := pathRoot path ++ join ['/'] parts
  if clean.isEmpty then ['.'] else clean

/-- The last part of a path. -/
def fileName (path : Text) : Text := ((splitOn '/' path).getLast?).getD []

/-- The ending of a name, from the last full stop on; none if that stands at either end of the
name. -/
def fileExtension (name : Text) : Text :=
  match splitLast '.' name with
  | some (before, after) => if before.isEmpty || after.isEmpty then [] else '.' :: after
  | none => []

/-- The files of a host by their paths. -/
structure FileTree where
  /-- The paths of the files, and their contents. -/
  files : List (Text × ByteArray) := []

/-- The content of the file at a path. -/
def FileTree.read? (tree : FileTree) (path : Text) : Option ByteArray :=
  (tree.files.find? fun (other, _) => cleanPath other == path).map Prod.snd

/-! ## Text in pieces -/

/-- The text with all line ends written as line feeds. -/
def withLineFeeds (t : Text) : Text := replaceChar '\r' '\n' (replace "\r\n" "\n" t)

/-- The text of bytes after a character begun, which may end within a character; `none` where the
decoder fails. -/
def decodeStart? : Option Url.PendingChar → List UInt8 → Option Text
  | _, [] => some []
  | none, b :: rest =>
    let (t, begun) := Url.startChar b
    if t = ['\uFFFD'] then none else (decodeStart? begun rest).map (t ++ ·)
  | some p, b :: rest =>
    if p.least ≤ b.toNat ∧ b.toNat ≤ p.greatest then
      let bits := p.bits * 64 + (b.toNat - 0x80)
      match p.more with
      | 0 => (decodeStart? none rest).map (Char.ofNat bits :: ·)
      | more + 1 => decodeStart? (some ⟨bits, more, 0x80, 0xBF⟩) rest
    else none

/-- How many bytes are decoded at a time. -/
def blockSize : Nat := 8192

/-- The text of the first blocks, `count` of them or as many as the decoder takes. -/
def textOfBlocks (bytes : List UInt8) : (count : Nat) → Text
  | 0 => []
  | count + 1 =>
    (decodeStart? none (bytes.take ((count + 1) * blockSize))).getD (textOfBlocks bytes count)

/-- How many characters are read at a time. -/
def pieceSize : Nat := 4096

/-- The pieces in which a text is read; only the last one may be shorter than the others. -/
def pieces (t : Text) : List Text :=
  if t.isEmpty then [] else t.take pieceSize :: pieces (t.drop pieceSize)
termination_by t.length
decreasing_by
  rename_i present
  have := List.length_pos_iff.mpr (mt List.isEmpty_iff.mpr present)
  simp only [List.length_drop, pieceSize]
  omega

/-- The whole pieces that can be read of a content before the decoder fails. A carriage return at
the end of a block waits for a line feed. -/
def piecesBefore (content : ByteArray) : List Text :=
  let bytes := content.data.toList
  let t := textOfBlocks bytes (bytes.length / blockSize + 1)
  let come := if t.getLast? = some '\r' then t.dropLast else t
  (pieces (withLineFeeds come)).filter fun piece => piece.length == pieceSize

end MarkdownSite
