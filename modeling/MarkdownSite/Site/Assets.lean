import MarkdownSite.Log.Record
import MarkdownSite.Site.Context
import MarkdownSite.Site.Path

/-!
# Posts and their assets

A post may keep its assets in a folder named for it. Where the site knows the post of a document
and an asset of that post, a relative image path leads to the published asset. A lookup that finds
nothing, or fails, leaves the path as it is.
-/

namespace MarkdownSite

/-- A post of the site. -/
structure Post where
  /-- Its short name. -/
  slug : Text
  /-- Where it is published. -/
  path : Text
  /-- Its file, relative to the folder of the sources, with forward slashes. -/
  source : Text
  deriving DecidableEq, Repr

/-- What looks up posts and assets; a lookup may fail with a message. -/
structure AssetResolver where
  /-- The post with the given source file. -/
  findPost : Text → Except Text (Option Post)
  /-- The published path of the asset with the given key. -/
  findAsset : Text → Except Text (Option Text)

/-- Posts and assets in memory; of entries with one key the first counts. -/
structure AssetIndex where
  /-- The posts. -/
  posts : List Post := []
  /-- The assets: keys and published paths. -/
  assets : List (Text × Text) := []
  deriving Repr

namespace AssetIndex

/-- Adds a post under its source file, which it gives back as it is kept. -/
def addPost (index : AssetIndex) (source slug path : Text) : Post × AssetIndex :=
  let post : Post := { slug, path, source := Path.forward source }
  (post, { index with posts := post :: index.posts })

/-- Adds an asset under its key. -/
def addAsset (index : AssetIndex) (key path : Text) : AssetIndex :=
  { index with assets := (Path.forward key, path) :: index.assets }

/-- The post with the given source file. -/
def findPost (index : AssetIndex) (source : Text) : Option Post :=
  index.posts.find? fun post => post.source == source

/-- The published path of the asset with the given key. -/
def findAsset (index : AssetIndex) (key : Text) : Option Text := index.assets.lookup key

/-- Lookups in the index never fail. -/
def resolver (index : AssetIndex) : AssetResolver where
  findPost source := .ok (index.findPost source)
  findAsset key := .ok (index.findAsset key)

end AssetIndex

/-- The folder of a post's assets: named for the source file, under the folder of the sources. -/
def Post.assetDir (post : Post) (sourceDir : Text) : Text :=
  let source := Path.forward post.source
  Path.join (Path.join (Path.forward sourceDir) (Path.folder source)) (Path.stem (Path.name source))

/-- The folder of the assets of the post that a document belongs to, if the site knows it. -/
def resolveAssetDir (documentPath : Text) (site : Site) (resolver : Option AssetResolver) :
    Logged (Option Text) := do
  let some resolver := resolver | return none
  if documentPath.isEmpty then return none
  let source := Path.relativeToSource documentPath site.sourceDir
  match resolver.findPost source with
  | .error message =>
    warn .site ("Post lookup failed for " ++ source ++ ": " ++ message)
    return none
  | .ok none =>
    debug .site ("No post registered for source " ++ source)
    return none
  | .ok (some post) => return some (post.assetDir site.sourceDir)

/-- The published path of the asset that a relative path names next to a post. -/
def resolveAsset (href assetDir : Text) (resolver : AssetResolver) : Logged (Option Text) := do
  let key := Path.join assetDir (Path.forward href)
  match resolver.findAsset key with
  | .error message =>
    warn .site ("Asset lookup failed for " ++ key ++ ": " ++ message)
    return none
  | .ok none =>
    debug .site ("No post asset registered under " ++ key)
    return none
  | .ok (some path) => return some (Path.forward path)

end MarkdownSite
