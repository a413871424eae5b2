import MarkdownSite.Proofs.Render.Resolver
import MarkdownSite.Proofs.Site.Path
import MarkdownSite.Proofs.Url.Escapes

/-!
# Posts and assets that are found

An index finds what was added last under a path, however its slashes were spelled. So the assets of
a post are found from the document of the post and the paths that it names them by. Where the folder
of the sources is looked for in a longer path, the first folder of its name counts, which may be
another one.
-/

namespace MarkdownSite

open Text

namespace AssetIndex

/-! ## Indexes -/

/-- What is added to an index. -/
inductive Addition where
  /-- A post, with its source file, its short name and where it is published. -/
  | post (source slug path : Text)
  /-- An asset, with its key and where it is published. -/
  | asset (key path : Text)
  deriving DecidableEq, Repr

namespace Addition

/-- The post that is added under the given source file, if one is. -/
def post? (source : Text) : Addition → Option Post
  | .post spelling slug path =>
    if Path.forward spelling = source then some { slug, path, source } else none
  | .asset _ _ => none

/-- The published path that is added under the given key, if one is. -/
def path? (key : Text) : Addition → Option Text
  | .post _ _ _ => none
  | .asset spelling path => if Path.forward spelling = key then some path else none

end Addition

/-- The index with something added. -/
def add (index : AssetIndex) : Addition → AssetIndex
  | .post source slug path => (index.addPost source slug path).2
  | .asset key path => index.addAsset key path

/-- The index after additions, in order. -/
def ofAdditions (additions : List Addition) : AssetIndex := additions.foldl add {}

/-- What the last addition that gives something gives. -/
def lastGiven? {α : Type} (given? : Addition → Option α) (additions : List Addition) : Option α :=
  additions.reverse.findSome? given?

/-- A post is found under its source file once it is added, and other posts as before. -/
theorem findPost_add (index : AssetIndex) (addition : Addition) (source : Text) :
    (index.add addition).findPost source = (addition.post? source).or (index.findPost source) := by
  cases addition with
  | asset key path => rfl
  | post spelling slug path =>
    change List.find? _ (_ :: index.posts) = _
    rw [List.find?_cons, Addition.post?]
    by_cases same : Path.forward spelling = source
    · simp [same]
    · simp [same, beq_eq_false_iff_ne.mpr same, findPost]

/-- An asset is found under its key once it is added, and other assets as before. -/
theorem findAsset_add (index : AssetIndex) (addition : Addition) (key : Text) :
    (index.add addition).findAsset key = (addition.path? key).or (index.findAsset key) := by
  cases addition with
  | post source slug path => rfl
  | asset spelling path =>
    change List.lookup key (_ :: index.assets) = _
    rw [List.lookup_cons, Addition.path?]
    by_cases same : Path.forward spelling = key
    · simp [same]
    · simp [same, beq_eq_false_iff_ne.mpr (Ne.symm same), findAsset]

/-- A lookup that an addition to any index answers first is answered by the last addition that
does, and else as before. -/
theorem lookup_foldl {α : Type} (lookup : AssetIndex → Option α) {given? : Addition → Option α}
    (step : ∀ index addition, lookup (index.add addition) = (given? addition).or (lookup index))
    (additions : List Addition) (index : AssetIndex) :
    lookup (additions.foldl add index) = (lastGiven? given? additions).or (lookup index) := by
  induction additions generalizing index with
  | nil => rfl
  | cons addition additions ih =>
    rw [List.foldl_cons, ih, step, lastGiven?, lastGiven?, List.reverse_cons,
      List.findSome?_append, List.findSome?_singleton, Option.or_assoc]

/-- The post that was added last under its source file is found. -/
theorem findPost_ofAdditions (additions : List Addition) (source : Text) :
    (ofAdditions additions).findPost source = lastGiven? (Addition.post? source) additions := by
  rw [ofAdditions, lookup_foldl (findPost · source) (findPost_add · · source)]
  exact Option.or_none

/-- The asset that was added last under its key is found. -/
theorem findAsset_ofAdditions (additions : List Addition) (key : Text) :
    (ofAdditions additions).findAsset key = lastGiven? (Addition.path? key) additions := by
  rw [ofAdditions, lookup_foldl (findAsset · key) (findAsset_add · · key)]
  exact Option.or_none

/-- The post that is found has the source file that it is looked for under. -/
theorem source_of_findPost {index : AssetIndex} {source : Text} {post : Post}
    (found : index.findPost source = some post) : post.source = source := by
  rw [findPost, List.find?_eq_some_iff_append] at found
  exact eq_of_beq found.1

/-- A post that was added is found. -/
theorem exists_findPost {additions : List Addition} {spelling slug path : Text}
    (added : .post spelling slug path ∈ additions) :
    ∃ post, (ofAdditions additions).findPost (Path.forward spelling) = some post := by
  rw [findPost_ofAdditions, ← Option.isSome_iff_exists, lastGiven?, List.findSome?_isSome_iff]
  exact ⟨_, List.mem_reverse.mpr added, by rw [Addition.post?, if_pos rfl]; rfl⟩

end AssetIndex

/-! ## The assets of a post -/

open MarkdownSite.Path

/-- The folder of the assets of a post stands under the folder of the sources and is named for the
source file. -/
theorem Post.assetDir_eq {post : Post} {sourceDir folder source : Text}
    (names : Names (forward sourceDir) folder) (spelled : forward post.source = source)
    (segments : HasSegments source) :
    post.assetDir sourceDir = folder ++ '/' :: withoutExtension source := by
  have relative {last : Text} (absent : '/' ∉ last) : (stem last).head? ≠ some '/' := fun first =>
    absent (mem_of_mem_stem (List.mem_of_mem_head? first))
  unfold Post.assetDir
  dsimp only
  rw [spelled]
  by_cases member : '/' ∈ source
  · obtain ⟨before, last, rfl, absent⟩ := exists_last member
    rw [folder_append absent segments.folder, name_append absent, names.join segments.folder.head,
      (segments.folder.names folder).join (relative absent), withoutExtension_append absent,
      List.append_assoc]
    rfl
  · have inside : Names (folder ++ ['/']) folder := ⟨by simp, names.bare, .inr rfl⟩
    have outer : Path.folder source = [] := by rw [Path.folder, splitLast_eq_none member]
    have whole : name source = source := by rw [name, splitLast_eq_none member]
    rw [outer, whole, names.join (by simp), inside.join (relative member),
      withoutExtension_of_not_mem member]

/-- The document of a post leads to the folder of its assets. -/
theorem run_resolveAssetDir_of_found {documentPath source : Text} {site : Site}
    {index : AssetIndex} {folder : Text} (names : Names (forward site.sourceDir) folder)
    (segments : HasSegments source) (forwarded : forward source = source)
    (present : documentPath ≠ [])
    (under : relativeToSource documentPath site.sourceDir = source)
    (found : (index.findPost source).isSome = true) (records : List LogRecord) :
    ((resolveAssetDir documentPath site (some index.resolver)).run records).1 =
      some (folder ++ '/' :: withoutExtension source) := by
  obtain ⟨post, found⟩ := Option.isSome_iff_exists.mp found
  have spelled : forward post.source = source := by
    rw [AssetIndex.source_of_findPost found, forwarded]
  rw [run_resolveAssetDir, if_neg fun empty => present (List.isEmpty_iff.mp empty), under]
  change Option.map _ (index.findPost source) = _
  rw [found, Option.map_some, Post.assetDir_eq names spelled segments]

/-- A relative path that names an asset, with neither escapes nor references in it, is taken from
the folder that it is relative to. -/
structure NamesAsset (relative : Text) : Prop where
  /-- It has no escapes. -/
  escapes : '%' ∉ relative
  /-- It has no references. -/
  references : '&' ∉ relative
  /-- No slash starts it. -/
  slash : relative.head? ≠ some '/'
  /-- No backslash starts it. -/
  backslash : relative.head? ≠ some '\\'
  /-- No fragment and no scheme starts it. -/
  starts : ∀ start ∈ ["#".toList, "http:".toList, "https:".toList],
    startsWith start relative = false

namespace NamesAsset

variable {relative : Text}

/-- With forward slashes it still starts with no slash. -/
theorem head?_forward (named : NamesAsset relative) : (forward relative).head? ≠ some '/' := by
  intro first
  rw [forward, replaceChar, List.head?_map, Option.map_eq_some_iff] at first
  obtain ⟨c, start, same⟩ := first
  split at same
  · rename_i backslash
    exact named.backslash (by rw [start, backslash])
  · exact named.slash (by rw [start, same])

/-- It is a path of the site. -/
theorem isSiteRelative (named : NamesAsset relative) : Url.isSiteRelative relative = true := by
  have slashes : startsWith ['/', '/'] relative = false := startsWith_of_head named.slash ['/']
  have fragment := named.starts "#".toList (by decide)
  have http := named.starts "http:".toList (by decide)
  have https := named.starts "https:".toList (by decide)
  simpa [Url.isSiteRelative] using ⟨fragment, slashes, http, https⟩

end NamesAsset

/-- **An asset of a post is found from its post**, through any additions to the index: the document
of the post leads to the folder of the assets, the relative path leads from there to the asset that
was added last, and an image with that path has it as its source. Slashes may be spelled either way
throughout. -/
theorem assets_resolve {additions : List AssetIndex.Addition} {page : Page}
    {folder source spelling slug published documentPath relative path : Text}
    (names : Names (forward page.site.sourceDir) folder) (segments : HasSegments source)
    (posted : .post spelling slug published ∈ additions) (spelled : forward spelling = source)
    (under : forward documentPath = folder ++ '/' :: source)
    (added : AssetIndex.lastGiven? (AssetIndex.Addition.path? (folder ++ '/' ::
      (withoutExtension source ++ '/' :: forward relative))) additions = some path)
    (present : path ≠ []) (named : NamesAsset relative) (records : List LogRecord) :
    let index := AssetIndex.ofAdditions additions
    let assetDir := folder ++ '/' :: withoutExtension source
    ((resolveAssetDir documentPath page.site (some index.resolver)).run records).1
      = some assetDir ∧
    ((resolveAsset relative assetDir index.resolver).run records).1 = some (forward path) ∧
    ∀ image : Image, image.url = Url.target relative →
      page.options.prependRoot = true → page.options.postAsset = true →
      page.site.relativeLink = false →
      page.assetDir = some assetDir → page.resolver = some index.resolver →
      ((renderImage page image).run records).1 = image.html page.options
        (Url.encode (Url.underRoot (forward path) page.site.root)) := by
  intro index assetDir
  have forwarded : forward source = source := by rw [← spelled, forward_forward]
  have found : (index.findPost source).isSome = true := by
    obtain ⟨post, found⟩ := AssetIndex.exists_findPost posted
    rw [← spelled, found]
    rfl
  have key : Path.join assetDir (forward relative) =
      folder ++ '/' :: (withoutExtension source ++ '/' :: forward relative) := by
    rw [(segments.withoutExtension.names folder).join named.head?_forward, List.append_assoc]
    rfl
  have asset : AssetResolver.assetFound? (some index.resolver)
      (Path.join assetDir (forward relative)) = some path := by
    change index.findAsset _ = _
    rw [key, AssetIndex.findAsset_ofAdditions, added]
  have nonempty : documentPath ≠ [] := by
    rintro rfl
    simp [forward, replaceChar] at under
  refine ⟨run_resolveAssetDir_of_found names segments forwarded nonempty
    (relativeToSource_of_names names under) found records, ?_, ?_⟩
  · rw [run_resolveAsset, asset, Option.map_some]
  · intro image target prepends posts absolute dir resolver
    have href : Url.percentDecode image.url = relative := by
      rw [target, Url.percentDecode_target named.escapes named.references]
    have resolved : page.published? relative = some (forward path) := by
      have kept : forward path ≠ [] := fun empty => present (List.map_eq_nil_iff.mp empty)
      rw [Page.published?, dir, Option.bind_some, resolver, asset, posts,
        show startsWith "/" relative = false from startsWith_of_head named.slash [],
        show startsWith "\\" relative = false from startsWith_of_head named.backslash []]
      simp [assetDir, kept]
    rw [run_renderImage, Image.source_eq]
    dsimp only
    rw [href, prepends, absolute, named.isSiteRelative, resolved]
    rfl

/-- An asset that is replaced, with backslashes in all paths, is found from its post. -/
theorem assets_resolve_of_backslashes :
    let additions : List AssetIndex.Addition := [
      .asset "source/_posts/a.b/img/cat.jpg" "old.jpg",
      .post "_posts\\a.b.md" "a" "a/",
      .asset "source\\_posts\\a.b\\img\\cat.jpg" "a\\cat.jpg"]
    let resolver := (AssetIndex.ofAdditions additions).resolver
    let page : Page := {
      options := { prependRoot := true, postAsset := true }
      site := { root := "/blog/", sourceDir := "source\\" }
      assetDir := some "source/_posts/a.b"
      resolver := some resolver }
    ((resolveAssetDir "source\\_posts\\a.b.md" page.site (some resolver)).run []).1 =
      some "source/_posts/a.b" ∧
    ((renderImage page { text := "cat", url := "img%5Ccat.jpg" }).run []).1 =
      "<img src=\"/blog/a/cat.jpg\" alt=\"cat\">" := by
  intro additions resolver page
  have names : Names (forward page.site.sourceDir) "source" := ⟨by decide, by decide, by decide⟩
  have segments : HasSegments "_posts/a.b.md" := by decide
  have posted : .post "_posts\\a.b.md" "a" "a/" ∈ additions := by decide
  have under : forward "source\\_posts\\a.b.md" =
      "source".toList ++ '/' :: "_posts/a.b.md".toList := by decide
  have added : AssetIndex.lastGiven? (AssetIndex.Addition.path? ("source".toList ++
      '/' :: (withoutExtension "_posts/a.b.md" ++ '/' :: forward "img\\cat.jpg"))) additions =
      some "a\\cat.jpg".toList := by decide
  have named : NamesAsset "img\\cat.jpg" :=
    ⟨by decide, by decide, by decide, by decide, by decide⟩
  obtain ⟨dir, -, shown⟩ :=
    assets_resolve names segments posted rfl under added (by decide) named []
  exact ⟨dir, (shown _ rfl rfl rfl rfl rfl rfl).trans (by decide +kernel)⟩

/-! ## Where a project lies -/

/-- **A post is found in a project exactly if no folder above the folder of the sources has its
name.** Where one has, the source file is taken to be under that folder, and no post is there. -/
theorem resolveAssetDir_under_project {index : AssetIndex} {site : Site} {source : Text}
    (only : ∀ key, (index.findPost key).isSome = true ↔ key = forward source)
    (segments : HasSegments (forward source)) (present : site.sourceDir ≠ [])
    (plain : '/' ∉ site.sourceDir) (slashes : '\\' ∉ site.sourceDir) (project : Text)
    (records : List LogRecord) :
    ((resolveAssetDir (project ++ '/' :: (site.sourceDir ++ '/' :: source)) site
        (some index.resolver)).run records).1 =
      if site.sourceDir ∈ splitOn '/' (forward project) then none
      else some (site.sourceDir ++ '/' :: withoutExtension (forward source)) := by
  have unmoved : forward site.sourceDir = site.sourceDir := forward_eq_self slashes
  have path : forward (project ++ '/' :: (site.sourceDir ++ '/' :: source)) =
      forward project ++ '/' :: (site.sourceDir ++ '/' :: forward source) := by
    rw [forward_append]
    change _ ++ '/' :: forward (site.sourceDir ++ '/' :: source) = _
    rw [forward_append, unmoved]
    rfl
  have names : Names (forward site.sourceDir) site.sourceDir := by
    rw [unmoved]
    exact names_self present fun last => plain (List.mem_of_getLast? last)
  obtain ⟨rest, cut, first⟩ := splitFirst_under plain (forward project) (forward source)
  have place : relativeToSource (project ++ '/' :: (site.sourceDir ++ '/' :: source))
      site.sourceDir = rest := by
    rw [relativeToSource_segment present plain slashes, path, cut, Option.getD_some]
  by_cases above : site.sourceDir ∈ splitOn '/' (forward project)
  · have missed : index.findPost rest = none := by
      rw [← Option.not_isSome_iff_eq_none, only, first]
      exact fun absent => absent above
    rw [if_pos above, run_resolveAssetDir, place]
    change (if _ then none else Option.map _ (index.findPost rest)) = none
    rw [missed, Option.map_none, ite_self]
  · rw [if_neg above]
    exact run_resolveAssetDir_of_found names segments (forward_forward source) (by simp)
      (place.trans (first.mpr above)) ((only _).mpr rfl) records

/-- A project in a folder that has the name of the folder of its sources loses its posts. -/
theorem resolveAssetDir_repeated_name :
    let index := AssetIndex.ofAdditions [.post "_posts/hello.md" "hello" "p"]
    ((resolveAssetDir "/home/source/site/source/_posts/hello.md" { sourceDir := "source" }
      (some index.resolver)).run []).1 = none := by
  decide

/-- A post in a project whose folders all have other names is found. -/
theorem resolveAssetDir_under_project_of_other_names :
    let index := AssetIndex.ofAdditions [.post "_posts/hello.md" "hello" "p"]
    ((resolveAssetDir "/home/site/source/_posts/hello.md" { sourceDir := "source" }
      (some index.resolver)).run []).1 = some "source/_posts/hello" := by
  intro index
  have only : ∀ key, (index.findPost key).isSome = true ↔ key = forward "_posts/hello.md" := by
    intro key
    rw [AssetIndex.findPost_ofAdditions]
    change (List.findSome? _ [_]).isSome = true ↔ _
    rw [List.findSome?_singleton, AssetIndex.Addition.post?]
    by_cases same : forward "_posts/hello.md" = key
    · rw [if_pos same]
      exact ⟨fun _ => same.symm, fun _ => rfl⟩
    · rw [if_neg same]
      exact ⟨fun found => (by cases found), fun other => absurd other.symm same⟩
  have segments : HasSegments (forward "_posts/hello.md") := by decide
  exact @resolveAssetDir_under_project index { sourceDir := "source" } "_posts/hello.md" only
    segments (by decide) (by decide) (by decide) "/home/site" []

end MarkdownSite
