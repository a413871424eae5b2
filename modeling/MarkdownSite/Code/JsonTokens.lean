import MarkdownSite.Code.Span

/-!
# Tokens of JSON

The tokens are found by their first characters and are not checked further: what consists of
digits, signs, points and exponents is a number, what consists of the letters of `true`, `false`
and `null` is a word. A string before a colon is a key. Comments are known too.
-/

namespace MarkdownSite.Code

/-- The rest of a string after its opening quote: what belongs to it, whether it ends, and what
follows. After `\u` up to four hexadecimal digits are passed over, with the character that ends
them early. -/
def spanString : (inEscape : Bool) → (inUnicode : Nat) → Text → Text × Bool × Text
  | _, _, [] => ([], false, [])
  | inEscape, digits + 1, c :: t =>
    let more := if (Text.hexDigit? c).isSome then digits else 0
    let (code, ended, rest) := spanString (inEscape && more != 0) more t
    (c :: code, ended, rest)
  | true, 0, c :: t =>
    let (code, ended, rest) := if c = 'u' then spanString true 4 t else spanString false 0 t
    (c :: code, ended, rest)
  | false, 0, c :: t =>
    if c = '"' then (['"'], true, t)
    else
      let (code, ended, rest) := spanString (c == '\\') 0 t
      (c :: code, ended, rest)

/-- The rest of a block comment: what belongs to it, whether it ends, and what follows. -/
def spanComment : Text → Text × Bool × Text
  | [] => ([], false, [])
  | '*' :: '/' :: t => (['*', '/'], true, t)
  | c :: t =>
    let (code, ended, rest) := spanComment t
    (c :: code, ended, rest)

/-- A character that a number may have; a sign or a digit may start one. -/
def isNumberStart (c : Char) : Bool := c == '-' || c.isDigit

/-- A character that a number may go on with. -/
def isNumberPart (c : Char) : Bool := isNumberStart c || (['.', 'e', 'E', '+'] : Text).elem c

/-- A letter of `true`, `false` or `null`. -/
def isWordPart (c : Char) : Bool := List.elem c ("truefalsn" : Text)

/-- Brackets, braces and the comma, which run together. -/
def isBracket (c : Char) : Bool := List.elem c ("\x7b\x7d[]," : Text)

/-- The white space of JSON. -/
def isJsonBlank (c : Char) : Bool := c == ' ' || c == '\n' || c == '\r' || c == '\t'

/-- The characters that belong to a run that `first` starts, and what follows it. -/
def spanRun (kind : TokenClass) (p : Char → Bool) (first : Char) (t : Text) : Token × Text :=
  (⟨kind, first :: t.takeWhile p⟩, t.dropWhile p)

/-- The token that starts with a character, and what follows it. -/
def jsonToken (c : Char) (t : Text) : Token × Text :=
  if c = '"' then
    let (code, ended, rest) := spanString false 0 t
    (⟨if ended then .string else .wrong, c :: code⟩, rest)
  else if isJsonBlank c then spanRun .blank isJsonBlank c t
  else if c = 'f' ∨ c = 'n' ∨ c = 't' then spanRun .word isWordPart c t
  else if isNumberStart c then
    let part := t.takeWhile isNumberPart
    (⟨if part.all isNumberStart then .integer else .decimal, c :: part⟩, t.dropWhile isNumberPart)
  else if c = ':' ∨ isBracket c then spanRun .punctuation isBracket c t
  else if c = '/' then
    match t with
    | '/' :: _ => spanRun .lineComment (· != '\n') c t
    | '*' :: more =>
      let (code, ended, rest) := spanComment more
      (⟨if ended then .blockComment else .wrong, c :: '*' :: code⟩, rest)
    | _ => (⟨.wrong, [c]⟩, t)
  else (⟨.wrong, [c]⟩, t)

/-- The tokens of a text, looking for at most `fuel` of them. -/
def jsonTokensFrom : (fuel : Nat) → Text → List Token
  | 0, _ => []
  | _, [] => []
  | fuel + 1, c :: t =>
    let (token, rest) := jsonToken c t
    token :: jsonTokensFrom fuel rest

/-- Whether a colon comes next, after strings, blanks and comments. -/
def colonFollows : List Token → Bool
  | [] => false
  | ⟨kind, code⟩ :: rest =>
    match kind with
    | .string | .blank | .lineComment | .blockComment => colonFollows rest
    | .punctuation => code.head? == some ':'
    | _ => false

/-- Marks the strings before colons as keys. -/
def markKeys : List Token → List Token
  | [] => []
  | token :: rest =>
    (if token.kind = .string ∧ colonFollows rest then { token with kind := .key } else token)
      :: markKeys rest

/-- The tokens of JSON. -/
def jsonTokens (code : Text) : List Token := markKeys (jsonTokensFrom code.length code)

end MarkdownSite.Code
