import MarkdownSite.Text.Entity
import MarkdownSite.Url.Reference

/-!
# URLs and the site

A link is external if it names a web page on a host other than the site's own, and not one of the
hosts that count as part of the site. A path that names no scheme it knows, no host and no fragment
is taken to lie under the path at which the site is published.
-/

namespace MarkdownSite.Url

open Text

/-! ## Links out of the site -/

/-- The host of the site's address, if it has one. -/
def siteHost? (siteUrl : Text) : Option Text :=
  if siteUrl.isEmpty then none
  else
    match Parts.parse siteUrl with
    | .ok p => p.host?
    | .error _ => none

/-- The hosts that count as the site's, as they are given: none, one or several. -/
inductive ExcludedHosts where
  | none
  | one (host : Text)
  | several (hosts : List Text)

/-- The hosts one by one; the empty text gives none. -/
def ExcludedHosts.toList : ExcludedHosts → List Text
  | none => []
  | one host => if host.isEmpty then [] else [host]
  | several hosts => hosts

/-- What a link on a page of host `host` names. -/
def linkTarget (host url : Text) : Except UrlError Parts := do
  Parts.parse (← resolve ("http://" ++ host ++ "/") (decodeEntities url))

/-- Whether a link leads out of the site at `siteUrl`; the hosts in `exclude` count as the
site's. -/
def isExternal (url siteUrl : Text) (exclude : List Text) : Bool :=
  match siteHost? siteUrl with
  | none => false
  | some own =>
    match linkTarget own url with
    | .error _ => false
    | .ok target =>
      match target.host? with
      | none => false
      | some host =>
        (target.scheme = "http" || target.scheme = "https") && !exclude.contains host && host != own

/-- What is added to the tag of an external link: it opens a new tab, or it tells search engines
not to follow it, or both. -/
def externalAttributes (newTab nofollow : Bool) : Text :=
  match newTab, nofollow with
  | false, false => ""
  | true, false => " target=\"_blank\" rel=\"noopener\""
  | false, true => " rel=\"noopener external nofollow noreferrer\""
  | true, true => " target=\"_blank\" rel=\"noopener external nofollow noreferrer\""

/-! ## Paths under the root of the site -/

/-- Whether a URL is a path of the site: it starts with none of `#`, `//`, `http:` and
`https:`. -/
def isSiteRelative (url : Text) : Bool :=
  !(["#", "//", "http:", "https:"].any fun start => startsWith (String.toList start) url)

/-- Every run of slashes replaced by one. -/
def collapseSlashes : Text → Text
  | '/' :: '/' :: t => collapseSlashes ('/' :: t)
  | c :: t => c :: collapseSlashes t
  | [] => []

/-- A path of the site under its root; other URLs stay. -/
def underRoot (path root : Text) : Text :=
  if isSiteRelative path then
    collapseSlashes ((if root.isEmpty then ("/" : Text) else root) ++ '/' :: path)
  else path

end MarkdownSite.Url
