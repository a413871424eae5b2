import MarkdownSite.Proofs.Render.Resolver
import MarkdownSite.Proofs.Site.Path
import MarkdownSite.Proofs.Url.Rooted
import MarkdownSite.Proofs.Url.Spelling

/-!
# Absolute URLs and the root of the site

A URL that starts with a scheme names no path of the site. Two schemes are known by their first
characters, `http` and `https` in small letters: a URL with one of these stays as it is under every
root, and where an image is, nothing is looked up for it. A URL with any other scheme, or with one of
these in capitals, is taken for a path.
-/

namespace MarkdownSite

open Text

namespace Url

/-! ## Schemes -/

/-- A URL starts with a scheme, in any letter case. -/
structure StartsWithScheme (scheme url : Text) : Prop where
  /-- A scheme starts with a letter. -/
  letter : scheme.head?.any Char.isAlpha = true
  /-- It has letters, digits and the marks `+`, `-` and `.`. -/
  characters : scheme.all isSchemeChar = true
  /-- A colon ends it. -/
  colon : scheme ++ [':'] <+: url

/-- A scheme that is known by its first characters. -/
def IsWebScheme (scheme : Text) : Prop := scheme = "http" ∨ scheme = "https"

namespace StartsWithScheme

variable {scheme url : Text}

/-- A URL with a scheme starts with a letter, so with no mark. -/
theorem head?_ne (absolute : StartsWithScheme scheme url) {mark : Char}
    (other : mark.isAlpha = false) : url.head? ≠ some mark := by
  intro first
  obtain ⟨rest, rfl⟩ := absolute.colon
  have letter := absolute.letter
  cases scheme with
  | nil => cases letter
  | cons c scheme =>
    have same : c = mark := Option.some.inj first
    rw [same] at letter
    exact absurd letter (by simp [other])

/-- No colon stands in a scheme. -/
theorem colon_not_mem (absolute : StartsWithScheme scheme url) : ':' ∉ scheme := fun member =>
  absurd (List.all_eq_true.mp absolute.characters ':' member) (by decide)

/-- A URL starts with a scheme and a colon exactly if the scheme is its own. -/
theorem startsWith_scheme_iff (absolute : StartsWithScheme scheme url) {other : Text}
    (name : ':' ∉ other) : startsWith (other ++ [':']) url = true ↔ scheme = other := by
  obtain ⟨rest, rfl⟩ := absolute.colon
  rw [startsWith_iff, List.append_assoc, List.singleton_append,
    isPrefix_append_singleton_iff name absolute.colon_not_mem]
  exact eq_comm

/-- **A URL with a scheme is taken for a path of the site** exactly if the scheme is none of the two
that are known. -/
theorem isSiteRelative_eq_false_iff (absolute : StartsWithScheme scheme url) :
    isSiteRelative url = false ↔ IsWebScheme scheme := by
  have fragment : startsWith "#" url = false := startsWith_of_head (absolute.head?_ne (by decide)) []
  have slashes : startsWith "//" url = false :=
    startsWith_of_head (absolute.head?_ne (by decide)) ['/']
  have http : startsWith "http:" url = true ↔ scheme = "http" :=
    absolute.startsWith_scheme_iff (show ':' ∉ "http".toList by decide)
  have https : startsWith "https:" url = true ↔ scheme = "https" :=
    absolute.startsWith_scheme_iff (show ':' ∉ "https".toList by decide)
  unfold isSiteRelative IsWebScheme
  rw [← http, ← https]
  simp only [List.any_cons, List.any_nil, fragment, slashes, Bool.false_or, Bool.or_false,
    Bool.not_eq_false', Bool.or_eq_true]

/-- Decoding the escapes of a URL leaves its scheme. -/
theorem percentDecode (absolute : StartsWithScheme scheme url) :
    StartsWithScheme scheme (percentDecode url) where
  letter := absolute.letter
  characters := absolute.characters
  colon := by
    have plain : ∀ c ∈ scheme ++ [':'], c.toNat < 128 ∧ c ≠ '%' := by
      intro c member
      rcases List.mem_append.mp member with inside | colon
      · have allowed := List.all_eq_true.mp absolute.characters c inside
        obtain ⟨itself, -⟩ := standsForItself_of_isSchemeChar allowed
        refine ⟨toNat_lt_of_standsForItself (by decide) itself, ?_⟩
        rintro rfl
        exact absurd allowed (by decide)
      · rw [List.mem_singleton.mp colon]
        decide
    obtain ⟨rest, rfl⟩ := absolute.colon
    rw [percentDecode_append plain]
    exact List.prefix_append _ _

end StartsWithScheme

/-! ## Slashes -/

/-- What stands under a root is another text if the path starts with no slash: a root that adds
nothing but slashes leaves one of them at the start. -/
theorem collapseSlashes_append_ne {root path : Text} (present : root ≠ [])
    (slashless : path.head? ≠ some '/') : collapseSlashes (root ++ '/' :: path) ≠ path := by
  intro same
  have others : root.filter (· != '/') ++ path.filter (· != '/') = path.filter (· != '/') := by
    calc root.filter (· != '/') ++ path.filter (· != '/')
        = (root ++ '/' :: path).filter (· != '/') := by simp
      _ = path.filter (· != '/') := by rw [← filter_collapseSlashes, same]
  have slashes : ∀ c ∈ root, c = '/' := by
    have none := List.append_left_eq_self.mp others
    simpa using none
  have first := head?_collapseSlashes (root ++ '/' :: path)
  rw [same] at first
  cases root with
  | nil => exact present rfl
  | cons c root =>
    rw [slashes c List.mem_cons_self] at first
    exact slashless first

/-- A path that starts with no slash is another text under every root. -/
theorem underRoot_ne {path : Text} (relative : isSiteRelative path = true)
    (slashless : path.head? ≠ some '/') (root : Text) : underRoot path root ≠ path := by
  rw [underRoot, if_pos relative]
  refine collapseSlashes_append_ne ?_ slashless
  split
  · decide
  · rename_i filled
    simpa using filled

/-- **A URL with a scheme stays under every root** exactly if the scheme is one of the two that are
known. -/
theorem StartsWithScheme.underRoot_eq_iff {scheme url : Text}
    (absolute : StartsWithScheme scheme url) (root : Text) :
    underRoot url root = url ↔ IsWebScheme scheme := by
  rw [← absolute.isSiteRelative_eq_false_iff]
  cases relative : isSiteRelative url with
  | false => simp [underRoot, relative]
  | true =>
    have slashless : url.head? ≠ some '/' := absolute.head?_ne (by decide)
    simp [underRoot_ne relative slashless root]

end Url

/-! ## Images -/

/-- Where an image is that is no path of the site, nothing is looked up. -/
theorem imageTarget_of_absolute {page : Page} {url : Text}
    (absolute : Url.isSiteRelative (Url.percentDecode url) = false) :
    imageTarget page url = pure (Url.percentDecode url) := by
  unfold imageTarget
  simp [absolute]

/-- **A URL with a scheme is kept out of the root of the site** exactly if the scheme is `http` or
`https` in small letters. Such a URL stays under every root, and an image with it is where it says,
with nothing looked up and nothing reported. With any other scheme an image is put under the root
like a path, after the assets of the post have been looked through for it. -/
theorem absolute_url_stays_iff {scheme url : Text} (absolute : Url.StartsWithScheme scheme url) :
    (∀ root, Url.underRoot url root = url ↔ Url.IsWebScheme scheme) ∧
    ∀ (page : Page) (image : Image), (image.url = url ∨ Url.percentDecode image.url = url) →
      page.options.prependRoot = true → page.site.relativeLink = false →
      let href := Url.percentDecode image.url
      (Url.IsWebScheme scheme → imageTarget page image.url = pure href) ∧
      (¬Url.IsWebScheme scheme →
        image.source page = Url.underRoot ((page.published? href).getD href) page.site.root ∧
        (page.published? href = none → image.source page ≠ href)) := by
  refine ⟨absolute.underRoot_eq_iff, ?_⟩
  intro page image named prepends links href
  have schemed : Url.StartsWithScheme scheme href := by
    rcases named with given | decoded
    · rw [← given] at absolute
      exact absolute.percentDecode
    · rw [← decoded] at absolute
      exact absolute
  have known := schemed.isSiteRelative_eq_false_iff
  refine ⟨fun web => imageTarget_of_absolute (known.mpr web), fun other => ?_⟩
  have relative : Url.isSiteRelative href = true := by
    rw [← Bool.not_eq_false, known]
    exact other
  have source : image.source page =
      Url.underRoot ((page.published? href).getD href) page.site.root := by
    rw [Image.source_eq]
    simp [href, prepends, links, relative]
  refine ⟨source, fun nothing => ?_⟩
  rw [source, nothing, Option.getD_none]
  exact fun same => other ((schemed.underRoot_eq_iff page.site.root).mp same)

/-- A scheme in capitals is taken for a path, and its two slashes become one. -/
theorem underRoot_of_capitals :
    let url : Text := "HTTPS://example.com/a.png"
    Url.StartsWithScheme "HTTPS" url ∧
      Url.underRoot url "/blog/" = "/blog/HTTPS:/example.com/a.png" := by
  refine ⟨⟨by decide, by decide, by decide⟩, by decide⟩

/-- Data in an image is put under the root, and a page of the web is not. -/
theorem absolute_url_stays_iff_of_data :
    let page : Page := { options := { prependRoot := true }, site := { root := "/blog/" } }
    let drawing : Image := { text := "a", url := "data:image/png;base64,AA==" }
    let photo : Image := { text := "b", url := "https://b.c/d.png" }
    drawing.source page = Url.underRoot (Url.percentDecode drawing.url) "/blog/" ∧
      imageTarget page photo.url = pure (Url.percentDecode photo.url) := by
  intro page drawing photo
  have data : Url.StartsWithScheme "data" drawing.url := ⟨by decide, by decide, by decide⟩
  have https : Url.StartsWithScheme "https" photo.url := ⟨by decide, by decide, by decide⟩
  obtain ⟨-, placed⟩ := absolute_url_stays_iff data
  obtain ⟨-, kept⟩ := absolute_url_stays_iff https
  have other : ¬Url.IsWebScheme "data" := by
    unfold Url.IsWebScheme
    decide
  refine ⟨?_, (kept page photo (.inl rfl) rfl rfl).1 (.inr rfl)⟩
  exact ((placed page drawing (.inl rfl) rfl rfl).2 other).1

end MarkdownSite
