import MarkdownSite.Yaml.Node

/-!
# Documents

A text holds one document, perhaps after a line of three hyphens and before one of three full
stops.
-/

namespace MarkdownSite.Yaml

/-- Whether a document may have a character. -/
def isYamlChar (c : Char) : Bool :=
  let n := c.toNat
  n == 9 || n == 10 || n == 13 || (0x20 ≤ n && n ≤ 0x7E) || n == 0x85
    || (0xA0 ≤ n && n ≤ 0xFFFD) || 0x10000 ≤ n

/-- Skips the lines of directives: whether there are some, and the position after them. -/
def skipDirectives : (fuel : Nat) → Cursor → Bool × Cursor
  | 0, cursor => (false, cursor)
  | fuel + 1, cursor =>
    if cursor.column = 0 ∧ cursor.peek? = some '%' then
      (true, (skipDirectives fuel (cursor.skipWhile (· != '\n')).token.2).2)
    else (false, cursor)

/-- The value of a text; `none` if it is not one document in YAML. -/
def value? (t : Text) : Option Value := do
  if !t.all isYamlChar then none
  let t := match t with
    | '\uFEFF' :: rest => rest
    | t => t
  let fuel := 3 * t.length + 3
  let (hasDirectives, start) := skipDirectives fuel ({ rest := t } : Cursor).token.2
  let hasMarker := start.isMarker '-'
  if (hasDirectives || start.isMarker '.') && !hasMarker then none
  let (isNewLine, start) := if hasMarker then (start.skip 3).token else (true, start)
  let read ← readBlock 0 isNewLine fuel start
  let after := read.cursor.token.2
  let after := if after.isMarker '.' then (after.skip 3).token.2 else after
  if after.rest.isEmpty then return read.value
  none

/-! ## Reading in pieces -/

/-- A reader of YAML, which asks for a text piece by piece; `σ` is what it knows of the pieces that
have come. -/
structure Reader (σ : Type) where
  /-- What it knows before the first piece. -/
  start : σ
  /-- What it knows after one more piece; `none` if it finds an error before it asks for the next
  one. -/
  push? : σ → Text → Option σ
  /-- The value of the document that ends here; `none` if there is an error in it. -/
  value? : σ → Option Value

namespace Reader

/-- What a reader knows after some pieces; `none` if it finds an error before it asks for more. -/
def after? {σ : Type} (reader : Reader σ) (pieces : List Text) : Option σ :=
  pieces.foldlM reader.push? reader.start

/-- The value of the document in the given pieces. -/
def read? {σ : Type} (reader : Reader σ) (pieces : List Text) : Option Value :=
  reader.after? pieces >>= reader.value?

/-- The reader at hand. It looks at the characters of each piece when it comes, at those of the
first one only with the second, and at all else when the text has ended. -/
def standard : Reader Text where
  start := []
  push? seen piece :=
    if seen.isEmpty || (seen ++ piece).all isYamlChar then some (seen ++ piece) else none
  value? := Yaml.value?

end Reader

end MarkdownSite.Yaml
