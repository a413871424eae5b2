import MarkdownSite.Proofs.Options.Sanitizer
import MarkdownSite.Proofs.Render.Outcome
import MarkdownSite.Proofs.Render.Parts
import MarkdownSite.Render.SiteRenderer

/-!
# Sanitized renders

What is rendered does not depend on how it is sanitized: the standard policy, or one that a mapping
describes, is put to the HTML that the same call gives without a sanitizer. Only a mapping without
entries is taken for no wish to sanitize. This holds whatever reads the Markdown and cleans the HTML.
-/

namespace MarkdownSite

open Rendering

/-! ## The HTML before it is sanitized -/

namespace SiteRenderer

/-- The HTML of a document before it is sanitized. -/
def unsanitized (r : SiteRenderer) (document : Document) (options : RenderOptions) :
    Rendering Text := do
  let assetDir ← r.assetDir document.path options
  modify fun context =>
    { context with options, site := r.site, documentPath := document.path, shared := [] }
  let page : Page :=
    { options, site := r.site, resolver := r.resolver, assetDir,
      highlighter := r.libraries.highlighter }
  let parts ← page.parts r.hooks
  let t ← documentText document.text
  let html ← parts.html (r.libraries.read parts.grammar parts.extensions t)
  let shownPath := (document.path.orElse (.text "<string>")).toText
  (debug .documents ("Rendering (" ++ shownPath ++ ") completed in <t>s") : Logged Unit)
  return html

/-- A render finds its options, writes the HTML, and sanitizes it. -/
theorem render_eq (r : SiteRenderer) (document : Document) (overrides : OptionsLayer) :
    r.render document overrides = (do
      let options ← ofLogged .options (r.optionsFor overrides)
      r.sanitized options.dompurify (← r.unsanitized document options)) := by
  simp only [render, unsanitized, bind_assoc, pure_bind]

/-- A line of HTML that fills a document is rendered as it is. -/
theorem result_unsanitized_html {r : SiteRenderer} (hookless : r.hooks = none)
    (reads : r.libraries.read = Markdown.read) {line : Text} {start : Markdown.HtmlStart}
    (fills : Markdown.FillsAsHtml line start) (o : RenderOptions) (context : HookContext)
    (records : List LogRecord) :
    (r.unsanitized { text := .text line } o).result context records = .ok (line ++ "\n\n") := by
  have folder : r.assetDir .null o = pure none := rfl
  have text : documentText (.text line) = pure line := rfl
  unfold unsanitized
  simp only [hookless, reads, Page.parts_none, pure_bind, folder, text,
    Page.read_plainParts _ fills, Page.html_plainParts, List.append_assoc]
  rfl

/-- The folder of the assets does not depend on the context. -/
theorem agree_assetDir (r : SiteRenderer) (path : Value) (options : RenderOptions) :
    Agree (r.assetDir path options) (r.assetDir path options) := by
  unfold assetDir
  split
  · split
    · exact agree_lift _
    · exact agree_throw _
  · exact agree_pure none

/-- The text to render does not depend on the context. -/
theorem agree_documentText (v : Value) : Agree (documentText v) (documentText v) := by
  unfold documentText
  split
  · exact agree_pure []
  · exact agree_pure _
  · exact agree_throw _

/-- Without hooks the HTML before it is sanitized does not depend on how that will be done. -/
theorem agree_unsanitized {r : SiteRenderer} (hookless : r.hooks = none) (document : Document)
    (o : RenderOptions) (first second : SanitizerSetting) :
    Agree (r.unsanitized document { o with dompurify := first })
      (r.unsanitized document { o with dompurify := second }) := by
  unfold unsanitized
  simp only [hookless, Page.parts_none, pure_bind]
  refine (r.agree_assetDir document.path o).bind fun assetDir => ?_
  refine (agree_modify _ _).bind fun _ => ?_
  refine (agree_documentText document.text).bind fun t => ?_
  refine (agree_ofLogged _ _).bind fun html => ?_
  exact (agree_lift _).bind fun _ => agree_pure html

end SiteRenderer

/-! ## Sanitizing -/

/-- HTML sanitized by the policy that a value asks for. -/
def Libraries.sanitizeWith (libraries : Libraries) (v : Value) (html : Text) :
    Except RenderFailure Text :=
  match Sanitizer.Policy.ofValue v with
  | .ok policy => .ok (libraries.clean policy html)
  | .error e => .error (.policy e)

/-- HTML as a setting wants it. -/
def SanitizerSetting.apply (libraries : Libraries) :
    SanitizerSetting → Text → Except RenderFailure Text
  | .off, html => .ok html
  | .custom [], html => .ok html
  | .on, html => libraries.sanitizeWith .null html
  | .custom policy, html => libraries.sanitizeWith (.map policy) html

/-- The sanitizer gives what is left after cleaning, whatever it reports. -/
theorem Sanitizer.sanitize_fst (clean : Text → Text) (html : Text) (records : List LogRecord) :
    ((sanitize clean html).run records).1 = clean html := by
  unfold sanitize
  by_cases changed : (clean html).length ≠ html.length
  · simp only [if_pos changed]
    rfl
  · simp only [if_neg changed]
    rfl

/-- Sanitizing gives what the setting wants, in every context. -/
theorem SiteRenderer.result_sanitized (r : SiteRenderer) (setting : SanitizerSetting) (html : Text)
    (context : HookContext) (records : List LogRecord) :
    (r.sanitized setting html).result context records = setting.apply r.libraries html := by
  have cleaned (policy : Sanitizer.Policy) :
      (liftM (Sanitizer.sanitize (r.libraries.clean policy) html) : Rendering Text).result context
        records = .ok (r.libraries.clean policy html) := by
    rw [result_lift, Sanitizer.sanitize_fst]
  cases setting with
  | off => rfl
  | on => exact cleaned .standard
  | custom policy =>
    cases policy with
    | nil => rfl
    | cons entry rest =>
      simp only [sanitized, SanitizerSetting.apply, Libraries.sanitizeWith,
        Sanitizer.Policy.ofValue]
      cases Sanitizer.Policy.ofOptions (entry :: rest) with
      | ok policy => exact cleaned policy
      | error e => rfl

/-- A mapping without entries asks the sanitizer for the standard policy. -/
theorem Libraries.sanitizeWith_nil (libraries : Libraries) :
    libraries.sanitizeWith (.map []) = libraries.sanitizeWith .null := by
  have standard : Sanitizer.Policy.ofOptions [] = .ok .standard := rfl
  funext html
  simp only [sanitizeWith, Sanitizer.Policy.ofValue, standard]

/-- The standard policy has been put to a result exactly if it changes nothing there. -/
theorem Libraries.eq_bind_sanitizeWith_iff (libraries : Libraries)
    (given : Except RenderFailure Text) :
    given = given >>= libraries.sanitizeWith .null ↔
      ∀ html, given = .ok html → libraries.clean .standard html = html := by
  cases given with
  | error e =>
    refine iff_of_true rfl ?_
    intro html impossible
    contradiction
  | ok html =>
    have cleaned : Except.ok html >>= libraries.sanitizeWith .null =
      .ok (libraries.clean .standard html) := rfl
    rw [cleaned]
    constructor
    · intro same other found
      rw [← Except.ok.inj found]
      exact (Except.ok.inj same).symm
    · intro fixed
      rw [fixed html rfl]

/-! ## Calls that give a value for the sanitizer -/

/-- A call of a renderer without hooks in which the value for the sanitizer is still left open. -/
inductive SanitizedCall where
  /-- The value stands among the options of the call. -/
  | ofCall (libraries : Libraries) (site : Site) (siteOptions : Value)
    (resolver : Option AssetResolver) (overrides : OptionsLayer)
  /-- The value stands among the options of the site, and the call says nothing about it. -/
  | ofSite (libraries : Libraries) (site : Site) (siteOptions : Value)
    (resolver : Option AssetResolver) (overrides : OptionsLayer)
    (silent : overrides.LeavesSanitizer)

namespace SanitizedCall

/-- The renderer that is called. -/
def renderer : SanitizedCall → Value → SiteRenderer
  | ofCall libraries site siteOptions resolver _, _ => { site, siteOptions, resolver, libraries }
  | ofSite libraries site siteOptions resolver _ _, v =>
    { site, siteOptions := siteOptions.withOption "dompurify" v, resolver, libraries }

/-- The options of the call. -/
def overrides : SanitizedCall → Value → OptionsLayer
  | ofCall _ _ _ _ overrides, v => overrides.withSanitizer v
  | ofSite _ _ _ _ overrides _, _ => overrides

/-- The libraries of the renderer. -/
def libraries : SanitizedCall → Libraries
  | ofCall libraries _ _ _ _ => libraries
  | ofSite libraries _ _ _ _ _ => libraries

/-- The renderer has the libraries of the call, whatever the value is. -/
theorem libraries_renderer (call : SanitizedCall) (v : Value) :
    (call.renderer v).libraries = call.libraries := by
  cases call <;> rfl

/-- What the call renders with a value for the sanitizer. -/
def render (call : SanitizedCall) (v : Value) (document : Document) : Rendering Text :=
  (call.renderer v).render document (call.overrides v)

/-- The value decides the setting for the sanitizer and no other option. -/
theorem optionsFor_eq (call : SanitizedCall) (v w : Value) :
    (call.renderer v).optionsFor (call.overrides v) =
      (fun o => { o with dompurify := .ofValue v }) <$>
        (call.renderer w).optionsFor (call.overrides w) := by
  cases call with
  | ofCall libraries site siteOptions resolver overrides =>
    exact RenderOptions.merge_withSanitizer_last (.value siteOptions) overrides v w
  | ofSite libraries site siteOptions resolver overrides silent =>
    exact RenderOptions.merge_withSanitizer_first (.value siteOptions) silent v w

/-- The value does not change what a document is rendered to before it is sanitized. -/
theorem agree_unsanitized (call : SanitizedCall) (document : Document) (o : RenderOptions)
    (v w : Value) :
    Agree ((call.renderer v).unsanitized document { o with dompurify := .ofValue v })
      ((call.renderer w).unsanitized document { o with dompurify := .ofValue w }) := by
  cases call with
  | ofCall libraries site siteOptions resolver overrides =>
    exact SiteRenderer.agree_unsanitized rfl document o _ _
  | ofSite libraries site siteOptions resolver overrides silent =>
    exact SiteRenderer.agree_unsanitized
      (r := { site, siteOptions := siteOptions.withOption "dompurify" v, resolver, libraries })
      rfl document o _ _

/-- The HTML that a call gives before it is sanitized. -/
def unsanitized (call : SanitizedCall) (v : Value) (document : Document) : Rendering Text := do
  let o ← ofLogged .options ((call.renderer v).optionsFor (call.overrides v))
  (call.renderer v).unsanitized document o

/-- A call sanitizes, as the value wants, what it gives before. -/
theorem result_render (call : SanitizedCall) (v : Value) (document : Document)
    (context : HookContext) (records : List LogRecord) :
    (call.render v document).result context records =
      (call.unsanitized v document).result context records >>=
        (SanitizerSetting.ofValue v).apply call.libraries := by
  have split : call.render v document =
      call.unsanitized v document >>= (call.renderer v).sanitized (.ofValue v) := by
    unfold render unsanitized
    rw [SiteRenderer.render_eq, call.optionsFor_eq v v, ofLogged_map]
    simp only [bind_map_left, bind_assoc]
  rw [split, ← call.libraries_renderer v]
  exact result_bind ((call.renderer v).result_sanitized _) context records

/-- The HTML before it is sanitized does not depend on the value. -/
theorem result_unsanitized (call : SanitizedCall) (v w : Value) (document : Document)
    (context : HookContext) (records : List LogRecord) :
    (call.unsanitized v document).result context records =
      (call.unsanitized w document).result context records := by
  have same : Agree (call.unsanitized v document) (call.unsanitized w document) := by
    unfold unsanitized
    rw [call.optionsFor_eq v w, call.optionsFor_eq w w, ofLogged_map, ofLogged_map]
    simp only [bind_map_left]
    exact (agree_ofLogged _ _).bind fun o => call.agree_unsanitized document o v w
  exact congrArg Prod.fst (same context context records)

/-- Without a sanitizer a call gives what else would be sanitized. -/
theorem result_render_false (call : SanitizedCall) (v : Value) (document : Document)
    (context : HookContext) (records : List LogRecord) :
    (call.render (.bool false) document).result context records =
      (call.unsanitized v document).result context records := by
  rw [result_render, call.result_unsanitized (.bool false) v]
  exact bind_pure _

end SanitizedCall

/-- **A policy is put to the HTML that the same call gives without a sanitizer.** With true it is
the standard policy, and with a mapping the one that its entries describe. A mapping without entries
lets all HTML pass, so that the standard policy has been put to it only if this changes nothing.
Nothing is asked of the libraries that read the Markdown and clean the HTML. -/
theorem render_sanitizes (call : SanitizedCall) (document : Document) (context : HookContext)
    (records : List LogRecord) :
    let given (v : Value) := (call.render v document).result context records
    given (.bool true) = given (.bool false) >>= call.libraries.sanitizeWith .null ∧
      (∀ policy : Entries,
        given (.map policy) = given (.bool false) >>= call.libraries.sanitizeWith (.map policy) ↔
          (policy = [] →
            ∀ html, given (.bool false) = .ok html →
              call.libraries.clean .standard html = html)) ∧
      given (.map []) = given (.bool false) := by
  intro given
  have applied (v : Value) :
      given v = given (.bool false) >>= (SanitizerSetting.ofValue v).apply call.libraries := by
    change (call.render v document).result context records =
      (call.render (.bool false) document).result context records >>= _
    rw [call.result_render, call.result_render_false v]
  have empty : given (.map []) = given (.bool false) := by
    rw [applied]
    exact bind_pure _
  refine ⟨applied (.bool true), fun policy => ?_, empty⟩
  cases policy with
  | nil =>
    rw [empty, Libraries.sanitizeWith_nil, Libraries.eq_bind_sanitizeWith_iff]
    exact ⟨fun fixed _ => fixed, fun fixed => fixed rfl⟩
  | cons entry rest =>
    refine iff_of_true (applied (.map (entry :: rest))) ?_
    intro impossible
    contradiction

/-- A script stays where the mapping for the sanitizer has no entries. -/
theorem render_empty_policy_keeps_script :
    let call : SanitizedCall := .ofCall {} {} (.map []) none (.value (.map []))
    let given (v : Value) :=
      (call.render v { text := .text "<script>alert(1)</script>" }).result {} []
    given (.map []) ≠ given (.bool false) >>= call.libraries.sanitizeWith (.map []) := by
  intro call given
  have fills : Markdown.FillsAsHtml "<script>alert(1)</script>"
      ⟨.text "</script>" ">alert(1)</script>", true⟩ :=
    ⟨by decide +kernel, by decide +kernel, by decide +kernel, by decide +kernel⟩
  have html : (call.unsanitized (.map []) { text := .text "<script>alert(1)</script>" }).result
      {} [] = .ok "<script>alert(1)</script>\n\n" := by
    unfold SanitizedCall.unsanitized
    rw [result_bind fun o => SiteRenderer.result_unsanitized_html rfl rfl fills o]
    rfl
  have kept : given (.map []) = .ok "<script>alert(1)</script>\n\n" := by
    change (call.render _ _).result _ _ = _
    rw [call.result_render, html]
    rfl
  have plain : given (.bool false) = .ok "<script>alert(1)</script>\n\n" := by
    change (call.render _ _).result _ _ = _
    rw [call.result_render_false (.map []), html]
  have cleaned : Sanitizer.Policy.standard.clean "<script>alert(1)</script>\n\n" =
      "alert(1)\n\n" := by
    decide +kernel
  rw [kept, plain, Libraries.sanitizeWith_nil]
  intro same
  have unchanged : "<script>alert(1)</script>\n\n".toList =
      Sanitizer.Policy.standard.clean "<script>alert(1)</script>\n\n" := Except.ok.inj same
  rw [cleaned] at unchanged
  exact absurd unchanged (by decide +kernel)

end MarkdownSite
