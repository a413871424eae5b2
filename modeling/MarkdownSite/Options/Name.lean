import MarkdownSite.Text.Basic

/-!
# Names of the render options

Every option has two spellings: the name of its field and the one that site configurations use.
For some options they are the same.
-/

namespace MarkdownSite

/-- A render option. -/
inductive OptionName where
  | gfm
  | pedantic
  | breaks
  | smartLists
  | smartypants
  | quotes
  | headerIds
  | modifyAnchors
  | anchorAlias
  | autolink
  | sanitizeUrl
  | mangle
  | lazyload
  | figcaption
  | descriptionLists
  | prependRoot
  | postAsset
  | externalLink
  | dompurify
  | highlight
  | langPrefix
  deriving DecidableEq, Repr

namespace OptionName

/-- All options, in the order in which they are listed. -/
def all : List OptionName :=
  [.gfm, .pedantic, .breaks, .smartLists, .smartypants, .quotes, .headerIds, .modifyAnchors,
    .anchorAlias, .autolink, .sanitizeUrl, .mangle, .lazyload, .figcaption, .descriptionLists,
    .prependRoot, .postAsset, .externalLink, .dompurify, .highlight, .langPrefix]

/-- The name of the field of an option. -/
def fieldName : OptionName → Text
  | gfm => "gfm"
  | pedantic => "pedantic"
  | breaks => "breaks"
  | smartLists => "smart_lists"
  | smartypants => "smartypants"
  | quotes => "quotes"
  | headerIds => "header_ids"
  | modifyAnchors => "modify_anchors"
  | anchorAlias => "anchor_alias"
  | autolink => "autolink"
  | sanitizeUrl => "sanitize_url"
  | mangle => "mangle"
  | lazyload => "lazyload"
  | figcaption => "figcaption"
  | descriptionLists => "description_lists"
  | prependRoot => "prepend_root"
  | postAsset => "post_asset"
  | externalLink => "external_link"
  | dompurify => "dompurify"
  | highlight => "highlight"
  | langPrefix => "lang_prefix"

/-- The spelling of an option in site configurations. -/
def configKey : OptionName → Text
  | gfm => "gfm"
  | pedantic => "pedantic"
  | breaks => "breaks"
  | smartLists => "smartLists"
  | smartypants => "smartypants"
  | quotes => "quotes"
  | headerIds => "headerIds"
  | modifyAnchors => "modifyAnchors"
  | anchorAlias => "anchorAlias"
  | autolink => "autolink"
  | sanitizeUrl => "sanitizeUrl"
  | mangle => "mangle"
  | lazyload => "lazyload"
  | figcaption => "figcaption"
  | descriptionLists => "descriptionLists"
  | prependRoot => "prependRoot"
  | postAsset => "postAsset"
  | externalLink => "external_link"
  | dompurify => "dompurify"
  | highlight => "highlight"
  | langPrefix => "langPrefix"

/-- The option whose field has the given name. -/
def ofFieldName? (name : Text) : Option OptionName :=
  all.find? fun option => option.fieldName == name

/-- The option that a key names, in either spelling. -/
def ofKey? (key : Text) : Option OptionName :=
  all.find? fun option => option.fieldName == key || option.configKey == key

end OptionName

end MarkdownSite
