import MarkdownSite.Url.Encode

/-!
# URLs of code points

A string may have surrogates that stand alone, which are no characters and have no bytes. They stay
where references and escapes are decoded and where a URL is taken apart, and an authority may keep
them outside of its host name; but a path, a query or a fragment with one cannot be encoded.
-/

namespace MarkdownSite.Url

open Text

/-- A code point of a string. -/
inductive CodePoint where
  /-- A character. -/
  | char (c : Char)
  /-- A surrogate that stands alone. -/
  | surrogate (index : Fin 2048)
  deriving DecidableEq, Repr

namespace CodePoint

/-- Whether a code point is a character with a property. -/
def is (p : Char → Bool) : CodePoint → Bool
  | char c => p c
  | surrogate _ => false

/-- The character that a code point counts as where only ASCII matters, to which no surrogate
belongs. -/
def shadow : CodePoint → Char
  | char c => c
  | surrogate _ => '\uFFFD'

end CodePoint

/-- A string, as the list of its code points. -/
abbrev CodePoints := List CodePoint

namespace CodePoints

/-- The string that a text is. -/
def ofText (t : Text) : CodePoints := t.map .char

/-- The text that a string without surrogates is. -/
def toText? : CodePoints → Option Text
  | [] => some []
  | .char c :: t => (toText? t).map (c :: ·)
  | .surrogate _ :: _ => none

/-- The string with characters in the place of its surrogates. -/
def shadow (t : CodePoints) : Text := t.map CodePoint.shadow

/-- The string with `f` done to each run of characters that no surrogate interrupts; `run` is what
precedes of the first one. -/
def mapRunsFrom (f : Text → Text) (run : Text) : CodePoints → CodePoints
  | [] => ofText (f run)
  | .char c :: t => mapRunsFrom f (run ++ [c]) t
  | .surrogate index :: t => ofText (f run) ++ .surrogate index :: mapRunsFrom f [] t

/-- The string with `f` done to each run of characters that no surrogate interrupts. -/
def mapRuns (f : Text → Text) (t : CodePoints) : CodePoints := mapRunsFrom f [] t

/-! ## Taking a URL apart -/

/-- A URL taken apart; a scheme is always a text. -/
structure Parts where
  /-- The scheme. -/
  scheme : Text
  /-- The authority. -/
  authority : CodePoints
  /-- The path. -/
  path : CodePoints
  /-- The query. -/
  query : CodePoints
  /-- The fragment. -/
  fragment : CodePoints

/-- Drops the controls and spaces that lead up to a URL, and all tabs and line ends. -/
def clean (t : CodePoints) : CodePoints :=
  (t.dropWhile (CodePoint.is fun c => c.toNat ≤ 32)).filter
    fun point => !point.is fun c => c == '\t' || c == '\r' || c == '\n'

/-- Splits a scheme off. -/
def splitScheme (t : CodePoints) : Text × CodePoints :=
  let (scheme, rest) := Url.splitScheme (shadow t)
  (scheme, t.drop (t.length - rest.length))

/-- Splits an authority off, if two slashes announce one. -/
def splitAuthority (t : CodePoints) : CodePoints × CodePoints :=
  match t with
  | .char '/' :: .char '/' :: rest =>
    (rest.takeWhile fun point => !point.is endsAuthority,
      rest.dropWhile fun point => !point.is endsAuthority)
  | _ => ([], t)

/-- Splits a string at the first place of a mark; the second part is empty if there is none. -/
def splitAt (mark : Char) (t : CodePoints) : CodePoints × CodePoints :=
  (t.takeWhile (· != .char mark), (t.dropWhile (· != .char mark)).drop 1)

/-- Takes a URL apart. -/
def parse? (t : CodePoints) : Option Parts :=
  let (scheme, rest) := splitScheme (clean t)
  let (authority, rest) := splitAuthority rest
  let (rest, fragment) := splitAt '#' rest
  let (path, query) := splitAt '?' rest
  if (checkBrackets (shadow authority)).isOk && (checkLookalikes (shadow authority)).isOk then
    some { scheme, authority, path, query, fragment }
  else none

/-! ## Encoding -/

/-- What follows the last `@` of an authority. -/
def hostAndPort (authority : CodePoints) : CodePoints :=
  (authority.reverse.takeWhile (· != .char '@')).reverse

/-- An authority with its host name in ASCII. -/
def encodeAuthority? (authority : CodePoints) : Option CodePoints :=
  let hostPort := hostAndPort authority
  let user := authority.take (authority.length - hostPort.length)
  let host := hostPort.takeWhile (· != .char ':')
  if hostPort.head? = some (.char '[') || isAscii (shadow host) then some authority
  else do
    let encoded ← (encodeHostName (← toText? host)).toOption
    return user ++ ofText encoded ++ hostPort.drop host.length

/-- The URL put together from its parts, with another authority. -/
def withAuthority (p : Url.Parts) (authority : CodePoints) : CodePoints :=
  if authority.isEmpty then ofText p.toText
  else
    let path := if p.path.isEmpty || startsWith "/" p.path then p.path else '/' :: p.path
    ofText ((if p.scheme.isEmpty then [] else p.scheme ++ [':']) ++ "//") ++ authority
      ++ ofText (path ++ (if p.query.isEmpty then [] else '?' :: p.query)
        ++ (if p.fragment.isEmpty then [] else '#' :: p.fragment))

/-- The authority of a URL as it is written. -/
def Parts.writtenAuthority? (p : Parts) : Option CodePoints :=
  if p.authority.isEmpty then some [] else encodeAuthority? (mapRuns percentDecode p.authority)

/-- The parts of a URL encoded and put together for an attribute; but for its authority all of them
must be texts. -/
def Parts.encode? (p : Parts) : Option CodePoints := do
  let authority ← p.writtenAuthority?
  let path ← toText? p.path
  let query ← toText? p.query
  let fragment ← toText? p.fragment
  let encoded : Url.Parts := {
    scheme := p.scheme
    path := recode path
    query := recode query
    fragment := recode fragment }
  return mapRuns escapeAttribute (withAuthority encoded authority)

/-- A URL encoded for an attribute, if it can be. -/
def encode? (url : CodePoints) : Option CodePoints := do
  (checkNumbers (shadow url)).toOption
  (← parse? (mapRuns decodeEntities url)).encode?

/-- A URL encoded for an attribute; one that cannot be encoded stays as it is written. -/
def encode (url : CodePoints) : CodePoints := (encode? url).getD url

end CodePoints

end MarkdownSite.Url
