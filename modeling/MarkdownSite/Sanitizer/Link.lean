import MarkdownSite.Sanitizer.Policy
import MarkdownSite.Sanitizer.Reference
import MarkdownSite.Text.Blank
import MarkdownSite.Unicode.Casing
import MarkdownSite.Url.Parts

/-!
# Addresses in attributes

An attribute that holds an address is kept if the scheme of the address is allowed, however it is
disguised.
-/

namespace MarkdownSite.Sanitizer

open Text

/-- The attributes that hold addresses. -/
def linkAttributes : List Text :=
  List.map String.toList ["action", "background", "cite", "datasrc", "dynsrc", "href", "longdesc",
    "lowsrc", "ping", "poster", "src"]

/-- Whether a browser passes over a character of an address. -/
def isPassedOver (c : Char) : Bool :=
  let n := c.toNat
  c == '`' || n ≤ 0x20 || (0x7F ≤ n && n ≤ 0xA0) || isBlank c || c == '\uFFFD'

/-- An address without disguise: references are read, characters that browsers pass over are left
out, and letters are in lower case. -/
def undisguise (t : Text) : Text :=
  Unicode.lower ((replaceReferences t).filter fun c => !isPassedOver c)

/-- The scheme of an address and what follows it. A number after the colon is a port, so that no
scheme precedes it. -/
def splitScheme (t : Text) : Text × Text :=
  match splitFirst ":" t with
  | some (scheme, rest) =>
    let isPort := !rest.isEmpty && rest.all Char.isDigit
    if scheme == "http".toList then (scheme, rest)
    else if !scheme.isEmpty && scheme.all Url.isSchemeChar && !isPort then (scheme, rest)
    else ([], t)
  | none => ([], t)

/-- Whether the host of an address, which is given without its scheme, is none: its brackets do
not match, or a character in it may be taken for one that ends it. -/
def hasBrokenHost (t : Text) : Bool :=
  let (host, _) := Url.splitAuthority t
  List.elem '[' host != List.elem ']' host
    || (match Url.checkLookalikes host with
      | .ok _ => false
      | .error _ => true)

/-- Whether an address may stay. One without a scheme counts as one of the web. -/
def Policy.allowsLink (policy : Policy) (t : Text) : Bool :=
  let address := undisguise t
  let allows (scheme : Text) : Bool := policy.protocols.contains scheme
  let (scheme, rest) := splitScheme address
  if hasBrokenHost rest then false
  else if !scheme.isEmpty then allows scheme
  else
    startsWith ['#'] address
      || (match splitFirst ":" address with
        | some (before, _) => allows before
        | none => false)
      || allows "http" || allows "https"

end MarkdownSite.Sanitizer
