import MarkdownSite.Proofs.Node.Alike
import MarkdownSite.Proofs.Render.Sanitized

/-!
# Lookups of assets

What a resolver does to a render is what it finds: a lookup that fails is one that finds nothing.
Where options, the site or the document leave no place for lookups, it does nothing at all.
-/

namespace MarkdownSite

open Rendering

/-! ## What lookups find -/

namespace AssetResolver

/-- The post that is found for a source, if there is something that looks it up and it does not
fail. -/
def postFound? (resolver : Option AssetResolver) (source : Text) : Option Post :=
  resolver.bind fun resolver => (resolver.findPost source).toOption.join

/-- The published path that is found under a key, if there is something that looks it up and it does
not fail. -/
def assetFound? (resolver : Option AssetResolver) (key : Text) : Option Text :=
  resolver.bind fun resolver => (resolver.findAsset key).toOption.join

/-- Two resolvers find the same, whichever way they find nothing. -/
structure SameFinds (first second : Option AssetResolver) : Prop where
  /-- The posts. -/
  posts : postFound? first = postFound? second
  /-- The published paths. -/
  assets : assetFound? first = assetFound? second

end AssetResolver

open AssetResolver

/-- The folder of the assets of the post that is found for a document. -/
theorem run_resolveAssetDir (documentPath : Text) (site : Site) (resolver : Option AssetResolver)
    (records : List LogRecord) :
    ((resolveAssetDir documentPath site resolver).run records).1 =
      if documentPath.isEmpty then none
      else (postFound? resolver (Path.relativeToSource documentPath site.sourceDir)).map
        fun post => post.assetDir site.sourceDir := by
  unfold resolveAssetDir postFound?
  cases resolver with
  | none => simp; rfl
  | some resolver =>
    by_cases empty : documentPath.isEmpty = true
    · simp only [empty, ↓reduceIte]
      rfl
    · simp only [empty, Bool.false_eq_true, ↓reduceIte, Option.bind_some]
      cases resolver.findPost (Path.relativeToSource documentPath site.sourceDir) with
      | error message => rfl
      | ok found =>
        cases found with
        | none => rfl
        | some post => rfl

/-- The published path of an asset is the one that is found. -/
theorem run_resolveAsset (href assetDir : Text) (resolver : AssetResolver)
    (records : List LogRecord) :
    ((resolveAsset href assetDir resolver).run records).1 =
      (assetFound? (some resolver) (Path.join assetDir (Path.forward href))).map Path.forward := by
  unfold resolveAsset assetFound?
  simp only [Option.bind_some]
  cases resolver.findAsset (Path.join assetDir (Path.forward href)) with
  | error message => rfl
  | ok found =>
    cases found with
    | none => rfl
    | some path => rfl

/-! ## Images -/

/-- Where the asset that a relative path names is published, if a lookup finds it. -/
def Page.published? (page : Page) (href : Text) : Option Text :=
  page.assetDir.bind fun dir =>
    if page.options.postAsset && !dir.isEmpty && !Text.startsWith "/" href
        && !Text.startsWith "\\" href then
      ((assetFound? page.resolver (Path.join dir (Path.forward href))).map Path.forward).filter
        fun path => !path.isEmpty
    else none

/-- The published asset is the one that a lookup finds. -/
theorem run_publishedAsset (page : Page) (href : Text) (records : List LogRecord) :
    ((publishedAsset page href).run records).1 = page.published? href := by
  unfold publishedAsset Page.published?
  cases page.assetDir with
  | none => rfl
  | some dir =>
    cases page.resolver with
    | none =>
      simp only [Option.bind_some]
      split <;> rfl
    | some resolver =>
      simp only [Option.bind_some]
      split
      · rw [← run_resolveAsset href dir resolver records]
        rfl
      · rfl

/-- An image leads to the published asset, or to where the document says, under the root of the
site if it is there. -/
theorem Image.source_eq (image : Image) (page : Page) :
    image.source page =
      let href := Url.percentDecode image.url
      if page.options.prependRoot && !page.site.relativeLink && Url.isSiteRelative href then
        Url.underRoot ((page.published? href).getD href) page.site.root
      else href := by
  unfold source imageTarget
  dsimp only
  split
  · rw [← run_publishedAsset page _ []]
    rfl
  · rfl

/-! ## Renderings that end alike -/

namespace Rendering

variable {α β γ δ : Type}

/-- Two renderings end alike, whatever their contexts are and whatever has been reported. -/
def Alike (related : α → β → Prop) (x : Rendering α) (y : Rendering β) : Prop :=
  ∀ context other records reports,
    EndAlike related (x.result context records) (y.result other reports)

/-- Given values that are related are alike. -/
theorem alike_pure {related : α → β → Prop} {a : α} {b : β} (given : related a b) :
    Alike related (pure a) (pure b) :=
  fun _ _ _ _ => given

/-- A failure is like itself. -/
theorem alike_throw (related : α → β → Prop) (failure : RenderFailure) :
    Alike related (throw failure) (throw failure) :=
  fun _ _ _ _ => rfl

/-- Computations that only report are alike if they give values that are related. -/
theorem alike_lift {related : α → β → Prop} {x : Logged α} {y : Logged β}
    (given : ∀ records reports, related (x.run records).1 (y.run reports).1) :
    Alike related (liftM x : Rendering α) (liftM y : Rendering β) :=
  fun _ _ records reports => given records reports

/-- Changes of the context are alike. -/
theorem alike_modify (first second : HookContext → HookContext) :
    Alike (fun _ _ => True) (modify first) (modify second) :=
  fun _ _ _ _ => trivial

/-- Renderings one after another are alike if those that come first are, and those that follow are
wherever they are given related values. -/
theorem Alike.bind {related : α → β → Prop} {after : γ → δ → Prop} {x : Rendering α}
    {y : Rendering β} {f : α → Rendering γ} {g : β → Rendering δ} (first : Alike related x y)
    (second : ∀ a b, related a b → Alike after (f a) (g b)) : Alike after (x >>= f) (y >>= g) := by
  intro context other records reports
  have ends := first context other records reports
  unfold result outcome at ends ⊢
  rw [run_bind, run_bind]
  generalize (x.run.run context).run records = left at ends ⊢
  generalize (y.run.run other).run reports = right at ends ⊢
  obtain ⟨⟨given, context⟩, records⟩ := left
  obtain ⟨⟨given', other⟩, reports⟩ := right
  cases given with
  | ok a =>
    cases given' with
    | ok b => exact second a b ends context other records reports
    | error e => exact ends.elim
  | error e =>
    cases given' with
    | ok b => exact ends.elim
    | error f => exact ends

/-- The result of a computation that reports and may fail is what it gives, whatever it reports. -/
theorem result_ofLogged {ε : Type} (failure : ε → RenderFailure) (action : ExceptT ε Logged α)
    (context : HookContext) (records : List LogRecord) :
    (ofLogged failure action).result context records =
      (action.run.run records).1.mapError failure := by
  have lifted : ((liftM action.run : Rendering (Except ε α)).run.run context).run records =
      ((.ok (action.run.run records).1, context), (action.run.run records).2) := rfl
  unfold ofLogged result outcome
  rw [run_bind, lifted]
  dsimp only
  cases (action.run.run records).1 with
  | ok a => rfl
  | error e => rfl

end Rendering

variable {exact : Prop}

/-- The HTML of nodes is what the node renderer makes of them. -/
theorem RenderParts.result_html (parts : RenderParts) (nodes : List Node) (context : HookContext)
    (records : List LogRecord) :
    (parts.html nodes).result context records =
      ((renderNodes { parts.renderer with
        rules := parts.renderer.rules ++ parts.extensions.flatMap Markdown.Extension.nodeRules }
          nodes).runOn { records }).1.mapError .node := by
  unfold RenderParts.html
  rw [result_ofLogged]
  rfl

/-- Pages that are alike have alike HTML for the same nodes. -/
theorem Page.Alike.html {page other : Page} (pages : Page.Alike exact page other)
    (nodes : List Node) :
    Rendering.Alike (SameIf exact) (page.plainParts.html nodes) (other.plainParts.html nodes) := by
  intro context context' records reports
  have same : other.plainParts.extensions = page.plainParts.extensions := by
    unfold Page.plainParts
    rw [pages.options]
  have ends := (alike_renderNodes (pages.renderer page.plainParts.extensions) nodes { records }
    { records := reports } fun _ => rfl).1
  rw [RenderParts.result_html, RenderParts.result_html, same]
  exact ends.mapError RenderFailure.node

/-- Pages that are alike have alike HTML for a document, whatever reads it. -/
theorem Page.Alike.document {page other : Page} (pages : Page.Alike exact page other)
    (read : Markdown.Grammar → List Markdown.Extension → Text → List Node) (t : Text) :
    Rendering.Alike (SameIf exact)
      (page.plainParts.html (read page.plainParts.grammar page.plainParts.extensions t))
      (other.plainParts.html (read other.plainParts.grammar other.plainParts.extensions t)) := by
  have grammar : other.plainParts.grammar = page.plainParts.grammar := by
    unfold Page.plainParts
    rw [pages.options]
  have extensions : other.plainParts.extensions = page.plainParts.extensions := by
    unfold Page.plainParts
    rw [pages.options]
  rw [grammar, extensions]
  exact pages.html _

/-- Pages on which the same assets are found are alike; with relative links none are. -/
theorem Page.alike_of_published {page other : Page} (options : page.options = other.options)
    (site : page.site = other.site) (highlighter : page.highlighter = other.highlighter)
    (published : exact → page.site.relativeLink = false → page.published? = other.published?) :
    Page.Alike exact page other where
  options := options
  site := site
  highlighter := highlighter
  images exactly image := by
    rw [Image.source_eq, Image.source_eq, ← options, ← site]
    cases relative : page.site.relativeLink with
    | true => simp
    | false => rw [published exactly relative]

/-! ## The folder of the assets of a post -/

namespace SiteRenderer

/-- Whether a render needs the folder of the assets of its post. -/
def needsAssets (site : Site) (path : Value) (o : RenderOptions) : Bool :=
  path.isTruthy && site.postAssetFolder && o.prependRoot && o.postAsset

/-- A render leaves no place for the assets of a post: a switch of its options or of the site is
off, the site has relative links, or the document has no path. -/
def LeavesAssets (site : Site) (path : Value) (o : RenderOptions) : Prop :=
  o.prependRoot = false ∨ o.postAsset = false ∨ site.relativeLink = true ∨
    site.postAssetFolder = false ∨ path.isTruthy = false

/-- A render that needs the folder leaves no place for assets only if the site has relative
links. -/
theorem LeavesAssets.relativeLink {site : Site} {path : Value} {o : RenderOptions}
    (leaves : LeavesAssets site path o) (needs : needsAssets site path o = true) :
    site.relativeLink = true := by
  simp only [needsAssets, Bool.and_eq_true] at needs
  obtain ⟨⟨⟨truthy, folder⟩, root⟩, asset⟩ := needs
  rcases leaves with off | off | relative | off | off
  · exact absurd root (by simp [off])
  · exact absurd asset (by simp [off])
  · exact relative
  · exact absurd folder (by simp [off])
  · exact absurd truthy (by simp [off])

/-- The folder of the assets of the post of a document at a path, as lookups find it. -/
def folderFound? (site : Site) (resolver : Option AssetResolver) (path : Text) : Option Text :=
  if path.isEmpty then none
  else (postFound? resolver (Path.relativeToSource path site.sourceDir)).map
    fun post => post.assetDir site.sourceDir

/-- A render that does not need the folder, or has nothing to look it up, does without it. -/
theorem assetDir_eq_none {r : SiteRenderer} {path : Value} {o : RenderOptions}
    (without : (needsAssets r.site path o && r.resolver.isSome) = false) :
    r.assetDir path o = pure none := by
  unfold assetDir
  unfold needsAssets at without
  rw [without]
  rfl

/-- The folder that a render needs is the one that lookups find. -/
theorem result_assetDir_text {r : SiteRenderer} {path : Text} {o : RenderOptions}
    (needs : needsAssets r.site (.text path) o = true) (context : HookContext)
    (records : List LogRecord) :
    (r.assetDir (.text path) o).result context records =
      .ok (folderFound? r.site r.resolver path) := by
  cases present : r.resolver.isSome with
  | false =>
    have missing : r.resolver = none := Option.not_isSome_iff_eq_none.mp (by simp [present])
    rw [assetDir_eq_none (by rw [present, Bool.and_false]), missing]
    unfold folderFound? postFound?
    simp
    rfl
  | true =>
    unfold assetDir
    unfold needsAssets at needs
    rw [needs, present, folderFound?, ← run_resolveAssetDir path r.site r.resolver records]
    rfl

/-- A render fails if it needs the folder and the path of its document is no text. -/
theorem assetDir_eq_throw {r : SiteRenderer} {path : Value} {o : RenderOptions}
    (needs : (needsAssets r.site path o && r.resolver.isSome) = true)
    (other : ∀ t, path ≠ .text t) :
    r.assetDir path o = throw (.wrongKind path.kindName) := by
  unfold assetDir
  unfold needsAssets at needs
  rw [needs]
  cases path with
  | text t => exact absurd rfl (other t)
  | null | bool | int | float | list | map => rfl

section Folders

variable {site : Site} {siteOptions : Value} {first second : Option AssetResolver} {path : Value}
  {o : RenderOptions} {libraries : Libraries}

/-- The page of a render with the given resolver and folder. -/
def pageFor (libraries : Libraries) (site : Site) (o : RenderOptions)
    (resolver : Option AssetResolver) (assetDir : Option Text) : Page :=
  { options := o, site, resolver, assetDir, highlighter := libraries.highlighter }

/-- Without a folder no assets are found. -/
theorem alike_pageFor_none :
    Page.Alike exact (pageFor libraries site o first none)
      (pageFor libraries site o second none) :=
  Page.alike_of_published rfl rfl rfl fun _ _ => rfl

/-- Where the same is found, or there is no place for assets, the folders that lookups find lead to
pages that are alike. -/
theorem alike_pageFor_found {documentPath : Text}
    (needs : needsAssets site (.text documentPath) o = true)
    (enough : exact → SameFinds first second ∨ LeavesAssets site (.text documentPath) o) :
    Page.Alike exact (pageFor libraries site o first (folderFound? site first documentPath))
      (pageFor libraries site o second (folderFound? site second documentPath)) := by
  refine Page.alike_of_published rfl rfl rfl fun exactly relative => ?_
  rcases enough exactly with same | leaves
  · unfold Page.published? pageFor folderFound?
    rw [same.posts, same.assets]
  · exact absurd relative (by simp [pageFor, leaves.relativeLink needs])

/-- The folder of the assets is looked for alike. -/
theorem alike_assetDir
    (usable : first.isSome = second.isSome ∨ (path.isTruthy = true → ∃ t, path = .text t))
    (enough : exact → SameFinds first second ∨ LeavesAssets site path o) :
    Rendering.Alike
      (fun dir dir' =>
        Page.Alike exact (pageFor libraries site o first dir) (pageFor libraries site o second dir'))
      (assetDir { site, siteOptions, resolver := first, libraries } path o)
      (assetDir { site, siteOptions, resolver := second, libraries } path o) := by
  cases needs : needsAssets site path o with
  | false =>
    rw [assetDir_eq_none (by simp [needs]), assetDir_eq_none (by simp [needs])]
    exact alike_pure alike_pageFor_none
  | true =>
    by_cases isText : ∃ t, path = .text t
    · obtain ⟨t, rfl⟩ := isText
      intro context other records reports
      rw [result_assetDir_text needs, result_assetDir_text needs]
      exact alike_pageFor_found needs enough
    · have truthy : path.isTruthy = true := by
        simp only [needsAssets, Bool.and_eq_true] at needs
        exact needs.1.1.1
      have same : first.isSome = second.isSome := usable.resolve_right fun text =>
        isText (text truthy)
      have other : ∀ t, path ≠ .text t := fun t equal => isText ⟨t, equal⟩
      cases present : first.isSome with
      | false =>
        rw [assetDir_eq_none (by simp [present]), assetDir_eq_none (by simp [← same, present])]
        exact alike_pure alike_pageFor_none
      | true =>
        rw [assetDir_eq_throw (by simp [needs, present]) other,
          assetDir_eq_throw (by simp [needs, ← same, present]) other]
        exact alike_throw _ _

end Folders

/-! ## Whole renders -/

/-- The text to render is like itself. -/
theorem alike_documentText (v : Value) :
    Rendering.Alike Eq (documentText v) (documentText v) := by
  unfold documentText
  split
  · exact alike_pure rfl
  · exact alike_pure rfl
  · exact alike_throw Eq _

section Renders

variable {site : Site} {siteOptions : Value} {first second : Option AssetResolver}
  {document : Document} {o : RenderOptions} {libraries : Libraries}

/-- The HTML before it is sanitized is alike. -/
theorem alike_unsanitized
    (usable : first.isSome = second.isSome ∨
      (document.path.isTruthy = true → ∃ t, document.path = .text t))
    (enough : exact → SameFinds first second ∨ LeavesAssets site document.path o) :
    Rendering.Alike (SameIf exact)
      (unsanitized { site, siteOptions, resolver := first, libraries } document o)
      (unsanitized { site, siteOptions, resolver := second, libraries } document o) := by
  unfold unsanitized
  simp only [Page.parts_none, pure_bind]
  refine (alike_assetDir usable enough).bind fun dir dir' pages => ?_
  refine (alike_modify _ _).bind fun _ _ _ => ?_
  refine (alike_documentText document.text).bind fun t t' sameText => ?_
  subst sameText
  refine (pages.document libraries.read t).bind fun html html' sameHtml => ?_
  have reported : Rendering.Alike (fun _ _ : Unit => True)
      (liftM (debug .documents ("Rendering (" ++ (document.path.orElse (.text "<string>")).toText
        ++ ") completed in <t>s")))
      (liftM (debug .documents ("Rendering (" ++ (document.path.orElse (.text "<string>")).toText
        ++ ") completed in <t>s"))) := alike_lift fun _ _ => trivial
  exact reported.bind fun _ _ _ => alike_pure sameHtml

/-- A setting for the sanitizer fails on all HTML or on none. -/
theorem alike_sanitized {r s : SiteRenderer} (libraries : r.libraries = s.libraries)
    (setting : SanitizerSetting) {html html' : Text} (same : SameIf exact html html') :
    Rendering.Alike (SameIf exact) (r.sanitized setting html) (s.sanitized setting html') := by
  intro context other records reports
  rw [result_sanitized, result_sanitized, libraries]
  have cleaned (v : Value) : EndAlike (SameIf exact) (s.libraries.sanitizeWith v html)
      (s.libraries.sanitizeWith v html') := by
    unfold Libraries.sanitizeWith
    cases Sanitizer.Policy.ofValue v with
    | ok policy => exact fun exactly => congrArg (s.libraries.clean policy) (same exactly)
    | error e => exact Eq.refl (RenderFailure.policy e)
  cases setting with
  | off => exact same
  | on => exact cleaned .null
  | custom policy =>
    cases policy with
    | nil => exact same
    | cons entry rest => exact cleaned (.map (entry :: rest))

/-- The options of a call with the site's options. -/
def callOptions (siteOptions : Value) (overrides : OptionsLayer) (records : List LogRecord) :
    Except OptionError RenderOptions :=
  ((optionsFor { siteOptions } overrides).run.run records).1

/-- Renders with different resolvers end alike. -/
theorem endAlike_render {overrides : OptionsLayer} {records : List LogRecord}
    (usable : first.isSome = second.isSome ∨
      (document.path.isTruthy = true → ∃ t, document.path = .text t))
    (enough : exact → SameFinds first second ∨ ∀ o, callOptions siteOptions overrides records =
      .ok o → LeavesAssets site document.path o)
    (context : HookContext) :
    EndAlike (SameIf exact)
      ((render { site, siteOptions, resolver := first, libraries } document overrides).result
        context records)
      ((render { site, siteOptions, resolver := second, libraries } document overrides).result
        context records) := by
  have found := result_ofLogged .options (optionsFor { siteOptions } overrides) context records
  rw [render_eq, render_eq]
  change EndAlike (SameIf exact)
    (Rendering.result (ofLogged .options (optionsFor { siteOptions } overrides) >>= _) context
      records)
    (Rendering.result (ofLogged .options (optionsFor { siteOptions } overrides) >>= _) context
      records)
  unfold result outcome at found ⊢
  rw [run_bind, run_bind]
  generalize ((ofLogged .options (optionsFor { siteOptions } overrides)).run.run context).run
    records = options at found ⊢
  obtain ⟨⟨options, after⟩, reports⟩ := options
  cases options with
  | error e => exact Eq.refl e
  | ok o =>
    have given : callOptions siteOptions overrides records = .ok o := by
      unfold callOptions
      cases merged : ((optionsFor { siteOptions } overrides).run.run records).1 with
      | ok other =>
        rw [merged] at found
        exact congrArg Except.ok (Except.ok.inj found).symm
      | error e =>
        rw [merged] at found
        cases found
    have written : Rendering.Alike (SameIf exact)
        (unsanitized { site, siteOptions, resolver := first, libraries } document o)
        (unsanitized { site, siteOptions, resolver := second, libraries } document o) :=
      alike_unsanitized usable fun exactly => (enough exactly).imp_right fun leaves =>
        leaves o given
    have rendered := written.bind fun html html' same =>
      alike_sanitized (r := { site, siteOptions, resolver := first, libraries })
        (s := { site, siteOptions, resolver := second, libraries }) rfl o.dompurify same
    exact rendered after after reports reports

end Renders

end SiteRenderer

/-- **A lookup that fails is one that finds nothing, and nothing else.** Resolvers that find the
same give the same HTML, whichever way they find nothing; where there is no place for assets, all
resolvers do, and so does none; and whether and why a render fails is not up to the resolver. Nothing
is asked of the libraries that read Markdown, clean HTML and highlight code. -/
theorem failed_lookups_are_misses (libraries : Libraries) (site : Site) (siteOptions : Value)
    (document : Document) (overrides : OptionsLayer) (first second : Option AssetResolver)
    (usable : first.isSome = second.isSome ∨
      (document.path.isTruthy = true → ∃ t, document.path = .text t))
    (context : HookContext) (records : List LogRecord) :
    let given (resolver : Option AssetResolver) :=
      (SiteRenderer.render { site, siteOptions, resolver, libraries } document overrides).result
        context records
    (SameFinds first second → given first = given second) ∧
      ((∀ o, SiteRenderer.callOptions siteOptions overrides records = .ok o →
          SiteRenderer.LeavesAssets site document.path o) → given first = given second) ∧
      ∀ e, given first = .error e ↔ given second = .error e := by
  intro given
  have ends {exact : Prop} (enough : exact → SameFinds first second ∨ ∀ o,
      SiteRenderer.callOptions siteOptions overrides records = .ok o →
        SiteRenderer.LeavesAssets site document.path o) :
      EndAlike (SameIf exact) (given first) (given second) :=
    SiteRenderer.endAlike_render usable enough context
  refine ⟨fun same => ?_, fun leaves => ?_, fun e => ?_⟩
  · exact (ends fun _ : SameFinds first second => .inl same).eq same
  · exact (ends fun _ : True => .inr leaves).eq trivial
  · exact (ends False.elim).eq_error_iff e

/-- A post with an image, on a site that looks up posts and assets: all lookups fail or there is
nothing that looks up, and the post is found but the lookup of its asset fails or finds nothing. -/
theorem failed_lookups_are_misses_of_outage :
    let site : Site := { postAssetFolder := true }
    let overrides : OptionsLayer :=
      .value (.map [("prependRoot", .bool true), ("postAsset", .bool true)])
    let document : Document := { text := .text "![](a.png)", path := .text "source/a.md" }
    let post (_ : Text) : Except Text (Option Post) := .ok (some ⟨"a", "a/", "a.md"⟩)
    let outage : AssetResolver :=
      { findPost := fun _ => .error "offline", findAsset := fun _ => .error "offline" }
    let assetOutage : AssetResolver := { findPost := post, findAsset := fun _ => .error "offline" }
    let assetless : AssetResolver := { findPost := post, findAsset := fun _ => .ok none }
    let given (resolver : Option AssetResolver) :=
      (SiteRenderer.render { site, resolver } document overrides).result {} []
    (∃ o, SiteRenderer.callOptions .null overrides [] = .ok o ∧
      SiteRenderer.needsAssets site document.path o = true) ∧
      given (some outage) = given none ∧ given (some assetOutage) = given (some assetless) := by
  intro site overrides document post outage assetOutage assetless given
  have usable (first second : Option AssetResolver) : first.isSome = second.isSome ∨
      (document.path.isTruthy = true → ∃ t, document.path = .text t) := .inr fun _ => ⟨_, rfl⟩
  have unknown : SameFinds (some outage) none := ⟨rfl, rfl⟩
  have missing : SameFinds (some assetOutage) (some assetless) := ⟨rfl, rfl⟩
  refine ⟨⟨_, rfl, by decide⟩, ?_, ?_⟩
  · exact (failed_lookups_are_misses {} site .null document overrides _ _ (usable _ _) {} []).1
      unknown
  · exact (failed_lookups_are_misses {} site .null document overrides _ _ (usable _ _) {} []).1
      missing

end MarkdownSite
