import MarkdownSite.Render.Hooked
import MarkdownSite.Sanitizer.Output

/-!
# Rendering of documents

A renderer is bound to a site: its configuration gives options that every render starts from. Each
render has its own heading ids, and carries nothing over to the next. Markdown is read, HTML cleaned
and code highlighted by libraries that a host may replace.
-/

namespace MarkdownSite

/-- The libraries of a renderer. -/
structure Libraries where
  /-- The nodes of a text in Markdown, by a grammar and extensions. -/
  read : Markdown.Grammar → List Markdown.Extension → Text → List Node := Markdown.read
  /-- HTML without what a policy refuses. -/
  clean : Sanitizer.Policy → Text → Text := Sanitizer.Policy.clean
  /-- What highlights code. -/
  highlighter : Code.Highlighter := .standard

/-- What renders the documents of a site. -/
structure SiteRenderer where
  /-- The site. -/
  site : Site := {}
  /-- The options that every render starts from. -/
  siteOptions : Value := .null
  /-- What looks up posts and assets, if there is something. -/
  resolver : Option AssetResolver := none
  /-- The hooks of the host, if it has some. -/
  hooks : Option HookSet := none
  /-- The libraries that it uses. -/
  libraries : Libraries := {}

namespace SiteRenderer

/-- The renderer that a configuration describes. -/
def ofConfig (config : Entries) (resolver : Option AssetResolver) (hooks : Option HookSet) :
    SiteRenderer where
  site := .ofConfig config
  siteOptions := ((config.get? "marked").getD .null).orElse (.map [])
  resolver
  hooks

/-- The options of a render with options of its own. -/
def optionsFor (r : SiteRenderer) (overrides : OptionsLayer) :
    ExceptT OptionError Logged RenderOptions :=
  RenderOptions.merge [.value r.siteOptions, overrides]

/-- The folder of the assets of the post that a document belongs to, if it is needed and known. -/
def assetDir (r : SiteRenderer) (path : Value) (options : RenderOptions) :
    Rendering (Option Text) := do
  if path.isTruthy && r.site.postAssetFolder && options.prependRoot && options.postAsset
      && r.resolver.isSome then
    match path with
    | .text path => (resolveAssetDir path r.site r.resolver : Logged _)
    | path => throw (.wrongKind path.kindName)
  else return none

/-- The text to render; no text is an empty one. -/
def documentText : Value → Rendering Text
  | .null => return []
  | .text t => return t
  | v => throw (.wrongKind v.kindName)

/-- HTML as the options want it: sanitized or not. Without options of its own the sanitizer has the
standard policy. -/
def sanitized (r : SiteRenderer) (setting : SanitizerSetting) (html : Text) : Rendering Text := do
  match setting with
  | .off | .custom [] => return html
  | .on => (Sanitizer.sanitize (r.libraries.clean .standard) html : Logged _)
  | .custom options =>
    match Sanitizer.Policy.ofOptions options with
    | .ok policy => (Sanitizer.sanitize (r.libraries.clean policy) html : Logged _)
    | .error e => throw (.policy e)

/-- The HTML of a document, with options that win over those of the site. -/
def render (r : SiteRenderer) (document : Document) (overrides : OptionsLayer) :
    Rendering Text := do
  let options ← Rendering.ofLogged .options (r.optionsFor overrides)
  let assetDir ← r.assetDir document.path options
  modify fun context =>
    { context with options, site := r.site, documentPath := document.path, shared := [] }
  let page : Page :=
    { options, site := r.site, resolver := r.resolver, assetDir,
      highlighter := r.libraries.highlighter }
  let parts ← page.parts r.hooks
  let t ← documentText document.text
  let html ← parts.html (r.libraries.read parts.grammar parts.extensions t)
  let shownPath := (document.path.orElse (.text "<string>")).toText
  (debug .documents ("Rendering (" ++ shownPath ++ ") completed in <t>s") : Logged Unit)
  r.sanitized options.dompurify html

end SiteRenderer

end MarkdownSite
