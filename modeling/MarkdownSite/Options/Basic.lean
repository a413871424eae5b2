import MarkdownSite.Log.Record
import MarkdownSite.Options.External
import MarkdownSite.Options.Name
import MarkdownSite.Text.Slug
import MarkdownSite.Text.Typography
import MarkdownSite.Value.Number

/-!
# Render options

The options of one render, and how a value of any kind becomes the value of an option. A value
that an option cannot use gives the default, with a report.
-/

namespace MarkdownSite

/-- Whether and how the result of a render is sanitized. -/
inductive SanitizerSetting where
  | off
  | on
  /-- With a policy of its own. -/
  | custom (policy : Entries)
  deriving Repr

/-- The options of one render. -/
structure RenderOptions where
  /-- Tables, strikethrough and bare links on top of plain Markdown. -/
  gfm : Bool := true
  /-- Plain Markdown only, whatever `gfm` says. -/
  pedantic : Bool := false
  /-- A single line end in a paragraph breaks the line. -/
  breaks : Bool := true
  /-- Accepted, without effect. -/
  smartLists : Bool := true
  /-- Typographic punctuation in running text. -/
  smartypants : Bool := true
  /-- The glyphs for quotes. -/
  quotes : Text.Quotes := .standard
  /-- Headings have ids and links to themselves. -/
  headerIds : Bool := true
  /-- The letter case of heading ids. -/
  modifyAnchors : Text.CaseTransform := .none
  /-- A heading that is a link into the document takes its id from the link. -/
  anchorAlias : Bool := false
  /-- Addresses that stand as text become links. -/
  autolink : Bool := true
  /-- Links to scripts lose their target. -/
  sanitizeUrl : Bool := false
  /-- Mail addresses in autolinks are hidden from collecting programs. -/
  mangle : Bool := true
  /-- Images load when they come into view. -/
  lazyload : Bool := false
  /-- Images with a text stand in a figure with a caption. -/
  figcaption : Bool := false
  /-- A paragraph of a term and its description becomes a description list. -/
  descriptionLists : Bool := true
  /-- Paths of images are put under the root of the site. -/
  prependRoot : Bool := false
  /-- Relative paths of images are looked up among the assets of the post. -/
  postAsset : Bool := false
  /-- What happens to links that lead out of the site. -/
  externalLink : ExternalLinkOptions := {}
  /-- Whether and how the result is sanitized. -/
  dompurify : SanitizerSetting := .off
  /-- Code is highlighted. -/
  highlight : Bool := true
  /-- What precedes the name of the language in the class of a code block. -/
  langPrefix : Text := []
  deriving Repr

/-- The setting that a value stands for. -/
def SanitizerSetting.ofValue : Value → SanitizerSetting
  | .map policy => .custom policy
  | v => if v.isTruthy then .on else .off

/-- The setting as a value. -/
def SanitizerSetting.toValue : SanitizerSetting → Value
  | off => .bool false
  | on => .bool true
  | custom policy => .map policy

/-- The glyphs that a value gives: a text of four characters, else the standard ones. -/
def resolveQuotes (v : Value) : Logged Text.Quotes := do
  match v with
  | .null => return .standard
  | .text t =>
    if let some quotes := Text.Quotes.ofText? t then return quotes
  | _ => pure ()
  debug .typography ("Ignoring quotes option " ++ v.shown ++ ": expected exactly 4 characters")
  return .standard

/-- The letter case of ids that a value gives: a number of a transform, else no change. -/
def resolveTransform (v : Value) : ExceptT OptionError Logged Text.CaseTransform := do
  match v with
  | .null | .text [] => return .none
  | _ =>
    match v.readInt with
    | .number 0 => return .none
    | .number 1 => return .lower
    | .number 2 => return .upper
    | .infinite => throw .infiniteTransform
    | _ =>
      debug .options
        ("Invalid modifyAnchors value " ++ v.shown ++ ", leaving anchor case unchanged")
      return .none

/-- Values given to options; a later one for the same option replaces an earlier one. -/
abbrev Settings := List (OptionName × Value)

namespace Settings

/-- The value given to an option last. -/
def get? (settings : Settings) (name : OptionName) : Option Value :=
  settings.reverse.lookup name

/-- The settings of a mapping with keys in either spelling; other keys are reported. -/
def ofEntries : Entries → Logged Settings
  | [] => return []
  | (key, v) :: rest => do
    match OptionName.ofKey? key with
    | some name => return (name, v) :: (← ofEntries rest)
    | none =>
      debug .options ("Ignoring unknown render option " ++ Text.quoted key)
      ofEntries rest

/-- The settings of a mapping whose keys are names of fields. -/
def ofFields : Entries → Except OptionError Settings
  | [] => .ok []
  | (key, v) :: rest => do
    match OptionName.ofFieldName? key with
    | some name => return (name, v) :: (← ofFields rest)
    | none => throw (.unknownField key)

end Settings

namespace RenderOptions

/-- The options as settings; every option is given. -/
def toSettings (o : RenderOptions) : Settings :=
  [
    (.gfm, .bool o.gfm),
    (.pedantic, .bool o.pedantic),
    (.breaks, .bool o.breaks),
    (.smartLists, .bool o.smartLists),
    (.smartypants, .bool o.smartypants),
    (.quotes, .text o.quotes.toText),
    (.headerIds, .bool o.headerIds),
    (.modifyAnchors, .int o.modifyAnchors.toNat),
    (.anchorAlias, .bool o.anchorAlias),
    (.autolink, .bool o.autolink),
    (.sanitizeUrl, .bool o.sanitizeUrl),
    (.mangle, .bool o.mangle),
    (.lazyload, .bool o.lazyload),
    (.figcaption, .bool o.figcaption),
    (.descriptionLists, .bool o.descriptionLists),
    (.prependRoot, .bool o.prependRoot),
    (.postAsset, .bool o.postAsset),
    (.externalLink, o.externalLink.toValue),
    (.dompurify, o.dompurify.toValue),
    (.highlight, .bool o.highlight),
    (.langPrefix, .text o.langPrefix)]

/-- GitHub's additions are on unless plain Markdown is asked for. -/
def gfmEnabled (o : RenderOptions) : Bool := o.gfm && !o.pedantic

/-- The options that values give, one value for each option. -/
def ofValues (value : OptionName → Value) : ExceptT OptionError Logged RenderOptions := do
  let quotes ← resolveQuotes (value .quotes)
  let modifyAnchors ← resolveTransform (value .modifyAnchors)
  let externalLink ← ExternalLinkOptions.ofValue (value .externalLink)
  return {
    gfm := (value .gfm).isTruthy
    pedantic := (value .pedantic).isTruthy
    breaks := (value .breaks).isTruthy
    smartLists := (value .smartLists).isTruthy
    smartypants := (value .smartypants).isTruthy
    quotes
    headerIds := (value .headerIds).isTruthy
    modifyAnchors
    anchorAlias := (value .anchorAlias).isTruthy
    autolink := (value .autolink).isTruthy
    sanitizeUrl := (value .sanitizeUrl).isTruthy
    mangle := (value .mangle).isTruthy
    lazyload := (value .lazyload).isTruthy
    figcaption := (value .figcaption).isTruthy
    descriptionLists := (value .descriptionLists).isTruthy
    prependRoot := (value .prependRoot).isTruthy
    postAsset := (value .postAsset).isTruthy
    externalLink
    dompurify := SanitizerSetting.ofValue (value .dompurify)
    highlight := (value .highlight).isTruthy
    langPrefix := ((value .langPrefix).orElse (.text [])).toText }

/-- The value that settings give to an option; an option that is not given has its default. -/
def valueIn (settings : Settings) (name : OptionName) : Value :=
  (Settings.get? (toSettings {} ++ settings) name).getD .null

/-- The options that settings give. -/
def ofSettings (settings : Settings) : ExceptT OptionError Logged RenderOptions :=
  ofValues (valueIn settings)

/-- The options that a mapping gives, with keys in either spelling. -/
def ofEntries (entries : Entries) : ExceptT OptionError Logged RenderOptions := do
  ofSettings (← Settings.ofEntries entries)

/-- The options with the given fields. -/
def ofFields (fields : Entries) : ExceptT OptionError Logged RenderOptions := do
  ofSettings (← Settings.ofFields fields)

/-- The options with some fields replaced. -/
def update (o : RenderOptions) (fields : Entries) : ExceptT OptionError Logged RenderOptions := do
  ofSettings (o.toSettings ++ (← Settings.ofFields fields))

end RenderOptions

/-! ## Layers

Options come in layers: defaults, those of the site, those of a call. A later layer wins over an
earlier one, option by option. -/

/-- One layer of options. -/
inductive OptionsLayer where
  /-- Options built before; they give every option. -/
  | options (o : RenderOptions)
  /-- A mapping gives the options that its keys name, and null gives none. -/
  | value (v : Value)

/-- The settings of a layer. -/
def OptionsLayer.settings : OptionsLayer → ExceptT OptionError Logged Settings
  | options o => return o.toSettings
  | value .null => return []
  | value (.map entries) => Settings.ofEntries entries
  | value v => throw (.badLayer v.kindName)

/-- The settings of several layers, one after another. -/
def OptionsLayer.allSettings : List OptionsLayer → ExceptT OptionError Logged Settings
  | [] => return []
  | layer :: rest => return (← layer.settings) ++ (← allSettings rest)

/-- The options that layers give together. -/
def RenderOptions.merge (layers : List OptionsLayer) :
    ExceptT OptionError Logged RenderOptions := do
  ofSettings (← OptionsLayer.allSettings layers)

end MarkdownSite
