import MarkdownSite.Text.Entity
import MarkdownSite.Text.Escape
import MarkdownSite.Url.HostName
import MarkdownSite.Url.Parts
import MarkdownSite.Url.Percent

/-!
# URLs as attribute values

A URL from a document may be partly encoded already, so it is decoded first, its references and
then its percent escapes, and encoded again: the host as an ASCII name, path, query and fragment
by percent escapes, and the whole for an attribute.
-/

namespace MarkdownSite.Url

open Text

/-- The characters of paths, queries and fragments that stand for themselves, besides the
unreserved ones. -/
def safeCharacters : Text := "/:?#[]@!$&'()*+,;=%~"

/-- Most digits of a decimal number that is read. -/
def mostDigits : Nat := 4300

/-- How many decimal digits a reference has by what follows its ampersand. -/
def numberDigits : Text → Nat
  | '#' :: t => (t.takeWhile Char.isDigit).length
  | _ => 0

/-- Refuses a text with a reference whose decimal number is too long to be read. -/
def checkNumbers : Text → Except UrlError Unit
  | [] => .ok ()
  | c :: t =>
    let digits := if c = '&' then numberDigits t else 0
    if digits ≤ mostDigits then checkNumbers t else .error (.longNumber digits)

/-- An authority with its host name in ASCII; user, port and hosts in brackets stay. -/
def encodeAuthority (authority : Text) : Except UrlError Text :=
  let hostPort := hostAndPort authority
  let user := authority.take (authority.length - hostPort.length)
  if startsWith "[" hostPort then .ok authority
  else
    let host := hostPort.takeWhile (· != ':')
    if isAscii host then .ok authority
    else
      match encodeHostName host with
      | .ok encoded => .ok (user ++ encoded ++ hostPort.drop host.length)
      | .error e => .error (.badLabel e)

/-- Decodes the percent escapes of a part and encodes it again. -/
def recode (t : Text) : Text := percentEncode safeCharacters (percentDecode t)

/-- A URL whose references can be read encoded, not yet escaped for an attribute. -/
def encodeParts (url : Text) : Except UrlError Text := do
  let p ← Parts.parse (decodeEntities url)
  let authority ←
    if p.authority.isEmpty then pure [] else encodeAuthority (percentDecode p.authority)
  return Parts.toText {
    scheme := p.scheme
    authority
    path := recode p.path
    query := recode p.query
    fragment := recode p.fragment }

/-- A URL encoded for an attribute, or why it cannot be. -/
def encode? (url : Text) : Except UrlError Text := do
  checkNumbers url
  return escapeAttribute (← encodeParts url)

/-- A URL encoded for an attribute; one that cannot be encoded stays as it is written. -/
def encode (url : Text) : Text :=
  match encode? url with
  | .ok encoded => encoded
  | .error _ => url

/-- Schemes that can run a script or carry a document of their own. -/
def unsafeSchemes : List Text := ["javascript:", "vbscript:", "data:"]

/-- Whether a URL starts with an unsafe scheme, in lower case and as it is written. -/
def isUnsafe (url : Text) : Bool := unsafeSchemes.any fun scheme => startsWith scheme url

/-- Every character as a reference by its decimal number, which hides an address from programs
that collect them. -/
def mangle (t : Text) : Text := t.flatMap fun c => "&#" ++ ofNat c.toNat ++ ";"

end MarkdownSite.Url
