import MarkdownSite.Code.Highlight
import MarkdownSite.Node.Call
import MarkdownSite.Options.Basic
import MarkdownSite.Site.Assets
import MarkdownSite.Text.Markup
import MarkdownSite.Text.Typography
import MarkdownSite.Url.Encode
import MarkdownSite.Url.Site

/-!
# Text, links and images

The HTML of running text, of links and of images on a page.
-/

namespace MarkdownSite

open Text

/-- What the handlers of one render share. -/
structure Page where
  /-- The options of the render. -/
  options : RenderOptions := {}
  /-- The site that the document belongs to. -/
  site : Site := {}
  /-- What looks up posts and assets, if there is something. -/
  resolver : Option AssetResolver := none
  /-- The folder of the assets of the post, if it is known. -/
  assetDir : Option Text := none
  /-- What highlights code. -/
  highlighter : Code.Highlighter := .standard

/-! ## Text and attributes -/

/-- Text with its references decoded and written anew. -/
def renormalize (t : Text) : Text := escapeMarkup (decodeStrictEntities t)

/-- A run of text. -/
def renderText (page : Page) (t : Text) : Text :=
  renormalize (if page.options.smartypants then smarten page.options.quotes t else t)

/-- An attribute with a value that is escaped already. -/
def attributeHtml (name value : Text) : Text := ' ' :: name ++ "=\"" ++ value ++ "\""

/-- The title attribute; an empty title is none. -/
def titleHtml (title : Text) : Text :=
  if title.isEmpty then [] else attributeHtml "title" (escapeAttribute title)

/-- The URL encoded for an attribute, with a report if it cannot be. -/
def encodeUrl (url : Text) : Logged Text := do
  if let .error fault := Url.encode? url then
    debug .urls ("Could not encode URL " ++ quoted url ++ ": " ++ fault.message)
  return Url.encode url

/-- The scheme of mail addresses. -/
def mailScheme : Text := "mailto:"

/-- A link to render. -/
structure Link where
  /-- The rendered text of the link. -/
  text : Text
  /-- Where the link leads, as the document gives it. -/
  url : Text
  /-- The title, empty if there is none. -/
  title : Text := []
  /-- The link is an address that stands as text. -/
  isAutolink : Bool := false
  deriving DecidableEq, Repr

namespace Link

/-- Where the link leads; nowhere if scripts are to be blanked and it leads to one. -/
def target (link : Link) (options : RenderOptions) : Text :=
  if options.sanitizeUrl && Url.isUnsafe (Url.percentDecode link.url) then [] else link.url

/-- The address of a mail autolink that is to be hidden. -/
def hiddenAddress? (link : Link) (options : RenderOptions) : Option Text :=
  if link.isAutolink && options.mangle then
    (dropPrefix? mailScheme (link.target options)).map Url.percentDecode
  else none

/-- What is added to the tag of a link out of the site. -/
def externalHtml (link : Link) (page : Page) : Text :=
  let external := page.options.externalLink
  let target := link.target page.options
  if external.isActive && !target.isEmpty
      && Url.isExternal target page.site.url external.exclude then
    Url.externalAttributes external.enable external.nofollow
  else []

/-- The element of a link with the given `href` and text. -/
def element (link : Link) (page : Page) (href text : Text) : Text :=
  "<a" ++ attributeHtml "href" href ++ titleHtml link.title ++ link.externalHtml page
    ++ ">" ++ text ++ "</a>"

end Link

/-- A link. An autolink is its text alone if there are to be no autolinks. -/
def renderLink (page : Page) (link : Link) : Logged Text := do
  let options := page.options
  if options.sanitizeUrl && Url.isUnsafe (Url.percentDecode link.url) then
    debug .nodes ("Blanking unsafe link target " ++ quoted link.url)
  if link.isAutolink && !options.autolink then return link.text
  match link.hiddenAddress? options with
  | some address =>
    return link.element page (Url.mangle (mailScheme ++ address)) (Url.mangle address)
  | none => return link.element page (← encodeUrl (link.target options)) link.text

/-- An image to render. -/
structure Image where
  /-- The rendered description. -/
  text : Text
  /-- Where the image is, as the document gives it. -/
  url : Text
  /-- The title, empty if there is none. -/
  title : Text := []
  deriving DecidableEq, Repr

/-- Where the asset of a post is published that a relative path names, if it is known. -/
def publishedAsset (page : Page) (href : Text) : Logged (Option Text) := do
  match page.assetDir, page.resolver with
  | some dir, some resolver =>
    if page.options.postAsset && !dir.isEmpty && !startsWith "/" href && !startsWith "\\" href then
      return (← resolveAsset href dir resolver).filter fun path => !path.isEmpty
    return none
  | _, _ => return none

/-- Where an image is, after paths of the site are put under its root. -/
def imageTarget (page : Page) (url : Text) : Logged Text := do
  let href := Url.percentDecode url
  if page.options.prependRoot && !page.site.relativeLink && Url.isSiteRelative href then
    return Url.underRoot ((← publishedAsset page href).getD href) page.site.root
  return href

/-- The element of an image with the given source. -/
def Image.element (image : Image) (options : RenderOptions) (source : Text) : Text :=
  let alt := imageDescription image.text
  "<img" ++ attributeHtml "src" source
    ++ (if alt.isEmpty then [] else attributeHtml "alt" alt)
    ++ titleHtml image.title
    ++ (if options.lazyload then attributeHtml "loading" "lazy" else []) ++ ">"

/-- An image, in a figure with a caption if options ask for it. -/
def renderImage (page : Page) (image : Image) : Logged Text := do
  let element := image.element page.options (← encodeUrl (← imageTarget page image.url))
  if page.options.figcaption && !image.text.isEmpty then
    return "<figure>" ++ element ++ "<figcaption aria-hidden=\"true\">" ++ image.text
      ++ "</figcaption></figure>"
  return element

end MarkdownSite
