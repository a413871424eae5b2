import MarkdownSite.Proofs.Log.Record
import MarkdownSite.Proofs.Options.Settings

/-!
# Options one by one

Every option is of one of a few kinds, which says what it holds and how a value becomes such a
setting. The options that values give are these settings, each from the value of its own option and
from no other; what an option holds is read back from the value that it is written as.
-/

namespace MarkdownSite

/-! ## Kinds of options -/

/-- What kind of setting an option holds. -/
inductive OptionKind where
  /-- Whether something is done. -/
  | flag
  /-- Glyphs for quotes. -/
  | glyphs
  /-- A letter case. -/
  | letterCase
  /-- What happens to external links. -/
  | links
  /-- Whether and how the result is sanitized. -/
  | sanitizer
  /-- A text. -/
  | words
  deriving DecidableEq, Repr

namespace OptionKind

/-- The settings of a kind. -/
def Setting : OptionKind → Type
  | flag => Bool
  | glyphs => Text.Quotes
  | letterCase => Text.CaseTransform
  | links => ExternalLinkOptions
  | sanitizer => SanitizerSetting
  | words => Text

/-- The glyphs that a value stands for: a text of four characters gives them. -/
def glyphsOf : Value → Text.Quotes
  | .text t => (Text.Quotes.ofText? t).getD .standard
  | _ => .standard

/-- The letter case that a value stands for, by the number that it reads as. -/
def letterCaseOf (v : Value) : Except OptionError Text.CaseTransform :=
  match v.readInt with
  | .number 1 => .ok .lower
  | .number 2 => .ok .upper
  | .infinite => .error .infiniteTransform
  | _ => .ok .none

/-- The setting of a kind that a value stands for, or why it stands for none. -/
def coerce : (kind : OptionKind) → Value → Except OptionError kind.Setting
  | flag, v => .ok v.isTruthy
  | glyphs, v => .ok (glyphsOf v)
  | letterCase, v => letterCaseOf v
  | links, v => ExternalLinkOptions.ofValue v
  | sanitizer, v => .ok (SanitizerSetting.ofValue v)
  | words, v => .ok (v.orElse (.text [])).toText

/-- The value as which a setting is written. -/
def toValue : (kind : OptionKind) → kind.Setting → Value
  | flag, b => .bool b
  | glyphs, quotes => .text (Text.Quotes.toText quotes)
  | letterCase, transform => .int (Text.CaseTransform.toNat transform)
  | links, o => ExternalLinkOptions.toValue o
  | sanitizer, setting => SanitizerSetting.toValue setting
  | words, t => .text t

/-- The excluded hosts are read back from their list. -/
theorem excludedHosts_list (hosts : List Text) :
    excludedHosts (.list (hosts.map .text)) = .ok hosts := by
  cases hosts with
  | nil => rfl
  | cons host hosts =>
    have texts : ((host :: hosts).map Value.text).map Value.toText = host :: hosts := by
      rw [List.map_map]
      exact List.map_id _
    unfold excludedHosts
    rw [if_neg (by simp [Value.isTruthy])]
    exact congrArg Except.ok texts

/-- **A setting is read back from the value as which it is written.** -/
theorem coerce_toValue (kind : OptionKind) (setting : kind.Setting) :
    kind.coerce (kind.toValue setting) = .ok setting := by
  cases kind with
  | flag => rfl
  | glyphs => rfl
  | letterCase => cases setting <;> rfl
  | links =>
    have hosts := excludedHosts_list (ExternalLinkOptions.exclude setting)
    change ExternalLinkOptions.ofFields (ExternalLinkOptions.toFields setting) = .ok setting
    unfold ExternalLinkOptions.ofFields
    change (excludedHosts (.list _) >>= _) = _
    rw [hosts]
    rfl
  | sanitizer => cases setting <;> rfl
  | words => cases setting <;> rfl

/-- Only an infinite number stands for no letter case. -/
theorem eq_infiniteTransform {v : Value} {e : OptionError} (refused : letterCaseOf v = .error e) :
    e = .infiniteTransform := by
  unfold letterCaseOf at refused
  split at refused <;> simp_all

/-- Only hosts that cannot be listed stand for nothing to do with links. -/
theorem eq_excludeNotIterable {v : Value} {e : OptionError}
    (refused : ExternalLinkOptions.ofValue v = .error e) :
    ∃ kind, e = .excludeNotIterable kind := by
  have hosts {w : Value} {e : OptionError} (refused : excludedHosts w = .error e) :
      ∃ kind, e = .excludeNotIterable kind := by
    unfold excludedHosts at refused
    split at refused
    · cases refused
    · split at refused <;> cases refused
      exact ⟨_, rfl⟩
  unfold ExternalLinkOptions.ofValue at refused
  split at refused
  · rename_i fields
    unfold ExternalLinkOptions.ofFields at refused
    cases read : excludedHosts ((Entries.get? fields "exclude").getD .null) with
    | error other =>
      rw [read] at refused
      cases refused
      exact hosts read
    | ok exclude =>
      rw [read] at refused
      cases refused
  · cases refused

/-- A value that stands for no setting is no error of a layer. -/
theorem coerce_ne_badLayer (kind : OptionKind) (v : Value) (name : Text) :
    kind.coerce v ≠ .error (.badLayer name) := by
  intro refused
  cases kind with
  | letterCase => cases eq_infiniteTransform refused
  | links =>
    obtain ⟨kind, other⟩ := eq_excludeNotIterable refused
    cases other
  | _ => cases refused

end OptionKind

/-- The kind of an option. -/
def OptionName.kind : OptionName → OptionKind
  | quotes => .glyphs
  | modifyAnchors => .letterCase
  | externalLink => .links
  | dompurify => .sanitizer
  | langPrefix => .words
  | _ => .flag

namespace RenderOptions

/-- The setting of an option. -/
def get (o : RenderOptions) : (name : OptionName) → name.kind.Setting
  | .gfm => o.gfm
  | .pedantic => o.pedantic
  | .breaks => o.breaks
  | .smartLists => o.smartLists
  | .smartypants => o.smartypants
  | .quotes => o.quotes
  | .headerIds => o.headerIds
  | .modifyAnchors => o.modifyAnchors
  | .anchorAlias => o.anchorAlias
  | .autolink => o.autolink
  | .sanitizeUrl => o.sanitizeUrl
  | .mangle => o.mangle
  | .lazyload => o.lazyload
  | .figcaption => o.figcaption
  | .descriptionLists => o.descriptionLists
  | .prependRoot => o.prependRoot
  | .postAsset => o.postAsset
  | .externalLink => o.externalLink
  | .dompurify => o.dompurify
  | .highlight => o.highlight
  | .langPrefix => o.langPrefix

/-- The options with the given settings. -/
def ofGet (setting : (name : OptionName) → name.kind.Setting) : RenderOptions where
  gfm := setting .gfm
  pedantic := setting .pedantic
  breaks := setting .breaks
  smartLists := setting .smartLists
  smartypants := setting .smartypants
  quotes := setting .quotes
  headerIds := setting .headerIds
  modifyAnchors := setting .modifyAnchors
  anchorAlias := setting .anchorAlias
  autolink := setting .autolink
  sanitizeUrl := setting .sanitizeUrl
  mangle := setting .mangle
  lazyload := setting .lazyload
  figcaption := setting .figcaption
  descriptionLists := setting .descriptionLists
  prependRoot := setting .prependRoot
  postAsset := setting .postAsset
  externalLink := setting .externalLink
  dompurify := setting .dompurify
  highlight := setting .highlight
  langPrefix := setting .langPrefix

/-- Options have the settings with which they are made. -/
theorem get_ofGet (setting : (name : OptionName) → name.kind.Setting) (name : OptionName) :
    (ofGet setting).get name = setting name := by
  cases name <;> rfl

/-- Options are made of their settings. -/
theorem ofGet_get (o : RenderOptions) : ofGet o.get = o := rfl

/-- Options with the same settings are the same. -/
theorem ext_get {first second : RenderOptions} (same : ∀ name, first.get name = second.get name) :
    first = second := by
  rw [← ofGet_get first, ← ofGet_get second, funext same]

/-- The value that options give to an option is its setting, written as a value. -/
theorem get?_toSettings (o : RenderOptions) (name : OptionName) :
    Settings.get? o.toSettings name = some (name.kind.toValue (o.get name)) := by
  cases name <;> rfl

/-! ## Options that values give -/

/-- The glyphs that a value gives are those that it stands for. -/
theorem gives_resolveQuotes (v : Value) :
    Gives (liftM (resolveQuotes v) : ExceptT OptionError Logged Text.Quotes)
      (.ok (OptionKind.glyphsOf v)) := by
  intro records
  unfold resolveQuotes OptionKind.glyphsOf
  cases v with
  | text t =>
    cases read : Text.Quotes.ofText? t with
    | some quotes =>
      simp only [read]
      rfl
    | none =>
      simp only [read]
      rfl
  | _ => rfl

/-- The letter case that a value gives is the one that it stands for. -/
theorem gives_resolveTransform (v : Value) :
    Gives (resolveTransform v) (OptionKind.letterCaseOf v) := by
  intro records
  unfold resolveTransform
  split
  · rfl
  · rfl
  unfold OptionKind.letterCaseOf
  cases v.readInt with
  | infinite => rfl
  | notNumber => rfl
  | number n =>
    split
    · rename_i zero
      rw [zero]
      rfl
    · rename_i one
      rw [one]
      rfl
    · rename_i two
      rw [two]
      rfl
    · rename_i infinite
      cases infinite
    · rename_i one two _
      split
      · rename_i same
        exact absurd same one
      · rename_i same
        exact absurd same two
      · rename_i infinite
        cases infinite
      · rfl

section Values

variable {value : OptionName → Value}

/-- Values that stand for settings give the options with these settings. -/
theorem gives_ofValues {setting : (name : OptionName) → name.kind.Setting}
    (settle : ∀ name : OptionName, name.kind.coerce (value name) = .ok (setting name)) :
    Gives (ofValues value) (.ok (ofGet setting)) := by
  have letterCase : Gives (resolveTransform (value .modifyAnchors)) _ :=
    gives_resolveTransform (value .modifyAnchors)
  have links := gives_except (ExternalLinkOptions.ofValue (value .externalLink))
  rw [show OptionKind.letterCaseOf (value .modifyAnchors) = _ from settle .modifyAnchors]
    at letterCase
  rw [show ExternalLinkOptions.ofValue (value .externalLink) = _ from settle .externalLink] at links
  unfold ofValues
  refine (gives_resolveQuotes _).bind_ok (letterCase.bind_ok ?_)
  rw [show ExternalLinkOptions.ofValue (value .externalLink) = _ from settle .externalLink]
  refine links.bind_ok fun records => congrArg Except.ok (ext_get fun name => ?_)
  rw [get_ofGet]
  have own := settle name
  cases name with
  | modifyAnchors => rfl
  | externalLink => rfl
  | _ => exact Except.ok.inj own

/-- A value that stands for no letter case gives no options. -/
theorem gives_ofValues_letterCase {e : OptionError}
    (refused : OptionKind.letterCaseOf (value .modifyAnchors) = .error e) :
    Gives (ofValues value) (.error e) := by
  have letterCase := gives_resolveTransform (value .modifyAnchors)
  rw [refused] at letterCase
  exact (gives_resolveQuotes _).bind_ok letterCase.bind_error

/-- A value that stands for nothing to do with links gives no options, if there is a letter case. -/
theorem gives_ofValues_links {transform : Text.CaseTransform} {e : OptionError}
    (found : OptionKind.letterCaseOf (value .modifyAnchors) = .ok transform)
    (refused : ExternalLinkOptions.ofValue (value .externalLink) = .error e) :
    Gives (ofValues value) (.error e) := by
  have letterCase := gives_resolveTransform (value .modifyAnchors)
  rw [found] at letterCase
  have links := gives_except (ExternalLinkOptions.ofValue (value .externalLink))
  rw [refused] at links
  unfold ofValues
  rw [refused]
  exact (gives_resolveQuotes _).bind_ok (letterCase.bind_ok links.bind_error)

/-- Only a letter case and what happens to links can be without a setting. -/
theorem exists_settings {transform : Text.CaseTransform} {link : ExternalLinkOptions}
    (letterCase : OptionKind.letterCaseOf (value .modifyAnchors) = .ok transform)
    (links : ExternalLinkOptions.ofValue (value .externalLink) = .ok link) :
    ∃ setting : (name : OptionName) → name.kind.Setting,
      ∀ name : OptionName, name.kind.coerce (value name) = .ok (setting name) := by
  have each (name : OptionName) : ∃ setting, name.kind.coerce (value name) = .ok setting := by
    cases name with
    | modifyAnchors => exact ⟨transform, letterCase⟩
    | externalLink => exact ⟨link, links⟩
    | _ => exact ⟨_, rfl⟩
  exact Classical.axiomOfChoice each

/-- Values give options or an error. -/
theorem exists_gives_ofValues (value : OptionName → Value) :
    ∃ result, Gives (ofValues value) result := by
  cases letterCase : OptionKind.letterCaseOf (value .modifyAnchors) with
  | error e => exact ⟨_, gives_ofValues_letterCase letterCase⟩
  | ok transform =>
    cases links : ExternalLinkOptions.ofValue (value .externalLink) with
    | error e => exact ⟨_, gives_ofValues_links letterCase links⟩
    | ok link =>
      obtain ⟨setting, settle⟩ := exists_settings letterCase links
      exact ⟨_, gives_ofValues settle⟩

/-- Values that give no options have one that stands for no setting. -/
theorem exists_coerce_eq_error {e : OptionError} (failed : Gives (ofValues value) (.error e)) :
    ∃ name : OptionName, name.kind.coerce (value name) = .error e := by
  cases letterCase : OptionKind.letterCaseOf (value .modifyAnchors) with
  | error other =>
    cases failed.unique (gives_ofValues_letterCase letterCase)
    exact ⟨.modifyAnchors, letterCase⟩
  | ok transform =>
    cases links : ExternalLinkOptions.ofValue (value .externalLink) with
    | error other =>
      cases failed.unique (gives_ofValues_links letterCase links)
      exact ⟨.externalLink, links⟩
    | ok link =>
      obtain ⟨setting, settle⟩ := exists_settings letterCase links
      cases failed.unique (gives_ofValues settle)

/-- Values give options exactly if each stands for a setting, and then these are their settings. -/
theorem gives_ofValues_ok_iff {o : RenderOptions} :
    Gives (ofValues value) (.ok o) ↔
      ∀ name : OptionName, name.kind.coerce (value name) = .ok (o.get name) := by
  constructor
  · intro given
    cases letterCase : OptionKind.letterCaseOf (value .modifyAnchors) with
    | error e => cases given.unique (gives_ofValues_letterCase letterCase)
    | ok transform =>
      cases links : ExternalLinkOptions.ofValue (value .externalLink) with
      | error e => cases given.unique (gives_ofValues_links letterCase links)
      | ok link =>
        obtain ⟨setting, settle⟩ := exists_settings letterCase links
        cases given.unique (gives_ofValues settle)
        intro name
        rw [settle name, get_ofGet]
  · intro settle
    exact gives_ofValues settle

/-- Values that stand for the same settings give the same options, or fail the same. -/
theorem gives_ofValues_congr {other : OptionName → Value} {result : Except OptionError RenderOptions}
    (same : ∀ name : OptionName, name.kind.coerce (value name) = name.kind.coerce (other name))
    (given : Gives (ofValues value) result) : Gives (ofValues other) result := by
  cases letterCase : OptionKind.letterCaseOf (value .modifyAnchors) with
  | error e =>
    cases given.unique (gives_ofValues_letterCase letterCase)
    exact gives_ofValues_letterCase ((same .modifyAnchors).symm.trans letterCase)
  | ok transform =>
    cases links : ExternalLinkOptions.ofValue (value .externalLink) with
    | error e =>
      cases given.unique (gives_ofValues_links letterCase links)
      exact gives_ofValues_links ((same .modifyAnchors).symm.trans letterCase)
        ((same .externalLink).symm.trans links)
    | ok link =>
      obtain ⟨setting, settle⟩ := exists_settings letterCase links
      cases given.unique (gives_ofValues settle)
      exact gives_ofValues fun name => (same name).symm.trans (settle name)

end Values

end RenderOptions

end MarkdownSite
