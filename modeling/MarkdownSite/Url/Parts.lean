import MarkdownSite.Text.Blank
import MarkdownSite.Unicode.Casing
import MarkdownSite.Url.Address
import MarkdownSite.Url.Error
import MarkdownSite.Url.HostTable

/-!
# The parts of a URL

Scheme, authority, path, query and fragment, each as it is written. Line feeds, carriage returns
and tabs are dropped first, and so is what leads up to the URL; an empty query or fragment is the
same as none.
-/

namespace MarkdownSite.Url

open Text

/-- A URL taken apart. -/
structure Parts where
  /-- The scheme, in lower case; empty if there is none. -/
  scheme : Text := []
  /-- The authority: user, host and port. -/
  authority : Text := []
  /-- The path. -/
  path : Text := []
  /-- The query, without the question mark. -/
  query : Text := []
  /-- The fragment, without the number sign. -/
  fragment : Text := []
  deriving DecidableEq, Repr

/-- Schemes whose URLs have an authority, even if an empty one. -/
def hierarchicalSchemes : List Text :=
  ["ftp", "http", "gopher", "nntp", "telnet", "imap", "wais", "file", "mms", "https", "shttp",
    "snews", "prospero", "rtsp", "rtsps", "rtspu", "rsync", "svn", "svn+ssh", "sftp", "nfs",
    "git", "git+ssh", "ws", "wss"]

/-- A character that a scheme may have after its first letter. -/
def isSchemeChar (c : Char) : Bool := c.isAlphanum || c == '+' || c == '-' || c == '.'

/-- Splits a scheme off, if the text before the first colon is one. -/
def splitScheme (t : Text) : Text × Text :=
  match t with
  | c :: _ =>
    match splitFirst ":" t with
    | some (scheme, rest) =>
      if c.isAlpha && scheme.all isSchemeChar then (asciiLower scheme, rest) else ([], t)
    | none => ([], t)
  | [] => ([], [])

/-- Whether a character ends the authority. -/
def endsAuthority (c : Char) : Bool := c == '/' || c == '?' || c == '#'

/-- Splits an authority off, if two slashes announce one. -/
def splitAuthority (t : Text) : Text × Text :=
  match t with
  | '/' :: '/' :: rest =>
    (rest.takeWhile fun c => !endsAuthority c, rest.dropWhile fun c => !endsAuthority c)
  | _ => ([], t)

/-- Refuses an authority whose brackets do not hold an address. -/
def checkBrackets (authority : Text) : Except UrlError Unit :=
  if List.contains authority '[' != List.contains authority ']' then .error .unbalancedBrackets
  else
    match splitFirst "[" authority with
    | none => .ok ()
    | some (_, rest) =>
      let host := rest.takeWhile (· != ']')
      if startsWith "v" host then
        if isFutureAddress host then .ok () else .error .badFutureAddress
      else if isAddress4 host then .error .oldAddressInBrackets
      else if isAddress6 host then .ok ()
      else .error (.noAddress host)

/-- Refuses an authority with a character that may be taken for one that ends a part. -/
def checkLookalikes (authority : Text) : Except UrlError Unit :=
  if authority.any fun c => delimiterLookalikes.contains c.toNat then
    .error (.delimiterLookalike authority)
  else .ok ()

/-- Splits a text at the first place where `c` stands; the second part is empty if it does not. -/
def splitAt (c : Char) (t : Text) : Text × Text := (splitFirst [c] t).getD (t, [])

/-- Drops the controls and spaces that lead up to a URL, and all tabs and line ends. -/
def cleanUrl (t : Text) : Text :=
  (t.dropWhile fun c => c.toNat ≤ 32).filter fun c => !(c == '\t' || c == '\r' || c == '\n')

/-- Takes a URL apart; `scheme` is assumed where none is written. -/
def Parts.parseWith (scheme t : Text) : Except UrlError Parts := do
  let (written, rest) := splitScheme (cleanUrl t)
  let scheme := if written.isEmpty then scheme else written
  let (authority, rest) := splitAuthority rest
  checkBrackets authority
  let (rest, fragment) := splitAt '#' rest
  let (path, query) := splitAt '?' rest
  checkLookalikes authority
  return { scheme, authority, path, query, fragment }

/-- Takes a URL apart. -/
def Parts.parse (t : Text) : Except UrlError Parts := Parts.parseWith [] t

/-- The URL put together again. An authority is written if there is one, if the scheme wants one,
or if the path would be taken for one. -/
def Parts.toText (p : Parts) : Text :=
  let place :=
    if !p.authority.isEmpty || hierarchicalSchemes.contains p.scheme || startsWith "//" p.path then
      let path := if p.path.isEmpty || startsWith "/" p.path then p.path else '/' :: p.path
      "//" ++ p.authority ++ path
    else p.path
  (if p.scheme.isEmpty then [] else p.scheme ++ [':']) ++ place
    ++ (if p.query.isEmpty then [] else '?' :: p.query)
    ++ (if p.fragment.isEmpty then [] else '#' :: p.fragment)

/-- What follows the last `@` of an authority. -/
def hostAndPort (authority : Text) : Text :=
  match splitLast '@' authority with
  | some (_, rest) => rest
  | none => authority

/-- The host of an authority as it is written, without brackets and port. -/
def writtenHost (authority : Text) : Text :=
  let t := hostAndPort authority
  match splitFirst "[" t with
  | some (_, rest) => rest.takeWhile (· != ']')
  | none => t.takeWhile (· != ':')

/-- The host of a URL in lower case, a zone after a percent sign excepted; `none` if it is
empty. -/
def Parts.host? (p : Parts) : Option Text :=
  let host := writtenHost p.authority
  if host.isEmpty then none
  else
    let name := host.takeWhile (· != '%')
    some (Unicode.lower name ++ host.drop name.length)

end MarkdownSite.Url
