import MarkdownSite.Value.Shown

/-!
# The site

What the rendering of a document needs to know about the site that it belongs to.
-/

namespace MarkdownSite

/-- The site that documents belong to. -/
structure Site where
  /-- The address of the site. -/
  url : Text := []
  /-- The path under which the site is published. -/
  root : Text := "/"
  /-- The site has relative links, so the paths of images stay as they are. -/
  relativeLink : Bool := false
  /-- The folder of the sources. -/
  sourceDir : Text := "source"
  /-- Posts keep their assets in a folder named for the post. -/
  postAssetFolder : Bool := false
  deriving DecidableEq, Repr

namespace Site

/-- The text under a key, or `other` where the value does not count as true. -/
def textUnder (config : Entries) (key other : Text) : Text :=
  match config.get? key with
  | some v => if v.isTruthy then v.toText else other
  | none => other

/-- Whether the value under a key counts as true. -/
def flagUnder (config : Entries) (key : Text) : Bool :=
  ((config.get? key).getD .null).isTruthy

/-- The site that a configuration describes. -/
def ofConfig (config : Entries) : Site where
  url := textUnder config "url" []
  root := textUnder config "root" "/"
  relativeLink := flagUnder config "relative_link"
  sourceDir := textUnder config "source_dir" "source"
  postAssetFolder := flagUnder config "post_asset_folder"

/-- The fields of a site as a mapping. -/
def toFields (site : Site) : Entries :=
  [("url", .text site.url), ("root", .text site.root), ("relative_link", .bool site.relativeLink),
    ("source_dir", .text site.sourceDir), ("post_asset_folder", .bool site.postAssetFolder)]

end Site

end MarkdownSite
