import MarkdownSite.Options.Basic
import MarkdownSite.Proofs.Options.Settings

/-!
# The sanitizer among the options

A value given for the sanitizer reaches the options of a render, through the spelling of its key,
the layers and the choice of a setting. Nothing else in the options depends on it.
-/

namespace MarkdownSite

/-- The only key that names the option for the sanitizer. -/
theorem OptionName.ofKey?_eq_dompurify_iff (key : Text) :
    OptionName.ofKey? key = some .dompurify ↔ key = "dompurify" := by
  constructor
  · intro found
    rw [OptionName.ofKey?] at found
    have spelled := List.find?_some found
    change (("dompurify" : Text) == key || ("dompurify" : Text) == key) = true at spelled
    rw [Bool.or_self] at spelled
    exact (beq_iff_eq.mp spelled).symm
  · rintro rfl
    decide +kernel

/-- A setting is the one that it stands for as a value. -/
theorem SanitizerSetting.ofValue_toValue_ofValue (v : Value) :
    ofValue (ofValue v).toValue = ofValue v := by
  have flag (b : Bool) : ofValue (if b then on else off).toValue = if b then on else off := by
    cases b <;> rfl
  cases v with
  | map policy => rfl
  | null => rfl
  | bool b => exact flag _
  | int n => exact flag (Value.int n).isTruthy
  | float x => exact flag (Value.float x).isTruthy
  | text t => exact flag (Value.text t).isTruthy
  | list items => exact flag (Value.list items).isTruthy

/-- Options given as a mapping, or not at all, with a value for one more. -/
def Value.withOption (given : Value) (key : Text) (v : Value) : Value :=
  match given with
  | .null => .map (Entries.insert [] key v)
  | .map entries => .map (Entries.insert entries key v)
  | other => other

/-- A layer that gives a value for the sanitizer, besides what it gives. -/
def OptionsLayer.withSanitizer (layer : OptionsLayer) (v : Value) : OptionsLayer :=
  match layer with
  | options o => options { o with dompurify := .ofValue v }
  | value given => value (given.withOption "dompurify" v)

/-- A layer that says nothing about the sanitizer. -/
def OptionsLayer.LeavesSanitizer : OptionsLayer → Prop
  | options _ => False
  | value (.map entries) => Entries.get? entries "dompurify" = none
  | value _ => True

/-- Settings that depend on a value: they give it for the sanitizer, and nothing else in them
depends on it. -/
structure Settings.GiveSanitizer (settings : Value → Settings) : Prop where
  /-- The value gives the setting for the sanitizer. -/
  given : ∀ v, ∃ w, (settings v).get? .dompurify = some w ∧
    SanitizerSetting.ofValue w = SanitizerSetting.ofValue v
  /-- The values of the other options are the same. -/
  others : ∀ v w, ∀ name ≠ OptionName.dompurify, (settings v).get? name = (settings w).get? name

namespace Settings.GiveSanitizer

variable {settings : Value → Settings}

/-- Earlier settings change nothing about it. -/
theorem append_left (gives : GiveSanitizer settings) (first : Settings) :
    GiveSanitizer fun v => first ++ settings v where
  given v := by
    obtain ⟨w, found, same⟩ := gives.given v
    exact ⟨w, by rw [get?_append, found]; rfl, same⟩
  others v w name other := by
    rw [get?_append, get?_append, gives.others v w name other]

/-- Later settings change nothing about it if none of them is for the sanitizer. -/
theorem append_right (gives : GiveSanitizer settings) (last : Settings)
    (silent : last.get? .dompurify = none) : GiveSanitizer fun v => settings v ++ last where
  given v := by
    obtain ⟨w, found, same⟩ := gives.given v
    exact ⟨w, by rw [get?_append, silent, found]; rfl, same⟩
  others v w name other := by
    rw [get?_append, get?_append, gives.others v w name other]

/-- The settings of a mapping in which the value stands for the sanitizer. -/
theorem known_insert (entries : Entries) :
    GiveSanitizer fun v => known (entries.insert "dompurify" v) where
  given v := ⟨v, by rw [get?_known_insert OptionName.ofKey?_eq_dompurify_iff]; rfl, rfl⟩
  others v w name other := by
    rw [get?_known_insert OptionName.ofKey?_eq_dompurify_iff, if_neg other,
      get?_known_insert OptionName.ofKey?_eq_dompurify_iff, if_neg other]

/-- The settings of options built with the value. -/
theorem toSettings (o : RenderOptions) :
    GiveSanitizer fun v => { o with dompurify := .ofValue v }.toSettings := by
  -- Options are listed in a fixed order, with the sanitizer nineteenth.
  have listed (v : Value) : { o with dompurify := .ofValue v }.toSettings =
      o.toSettings.take 18 ++ (.dompurify, (SanitizerSetting.ofValue v).toValue) ::
        o.toSettings.drop 19 := rfl
  have last : Settings.get? (o.toSettings.drop 19) .dompurify = none := rfl
  constructor
  · intro v
    refine ⟨(SanitizerSetting.ofValue v).toValue, ?_, SanitizerSetting.ofValue_toValue_ofValue v⟩
    rw [listed, get?_append, get?_cons, last]
    rfl
  · intro v w name other
    rw [listed, listed, get?_append, get?_append, get?_cons, get?_cons, if_neg other]
    rw [if_neg other]

/-- The options that such settings give: only the setting for the sanitizer depends on the value. -/
theorem ofSettings_eq (gives : GiveSanitizer settings) (v w : Value) :
    RenderOptions.ofSettings (settings v) =
      (fun o => { o with dompurify := .ofValue v }) <$> RenderOptions.ofSettings (settings w) := by
  have atDefaults := gives.append_left (RenderOptions.toSettings {})
  obtain ⟨u, found, same⟩ := atDefaults.given v
  unfold RenderOptions.ofSettings
  rw [RenderOptions.ofValues_eq_map _ (RenderOptions.valueIn (settings w))]
  · have value : RenderOptions.valueIn (settings v) .dompurify = u := by
      unfold RenderOptions.valueIn
      rw [found]
      rfl
    rw [value, same]
  · intro name other
    unfold RenderOptions.valueIn
    rw [atDefaults.others v w name other]

end Settings.GiveSanitizer

namespace OptionsLayer

/-- The settings of a layer that gives a value for the sanitizer: what is reported, and whether the
layer is one, does not depend on the value. -/
theorem settings_withSanitizer (layer : OptionsLayer) :
    ∃ (before : ExceptT OptionError Logged Unit) (given : Value → Settings),
      Settings.GiveSanitizer given ∧
        ∀ v, (layer.withSanitizer v).settings = (do before; return given v) := by
  have mapping (entries : Entries) : ∃ (before : ExceptT OptionError Logged Unit)
      (given : Value → Settings), Settings.GiveSanitizer given ∧
        ∀ v, (value (.map (entries.insert "dompurify" v))).settings =
          (do before; return given v) := by
    refine ⟨Settings.reportKeys ((entries.insert "dompurify" .null).map Prod.fst), _,
      .known_insert entries, fun v => ?_⟩
    rw [settings, Settings.ofEntries_eq, Entries.map_fst_insert entries "dompurify" v .null]
    rfl
  cases layer with
  | options o => exact ⟨pure (), _, .toSettings o, fun v => rfl⟩
  | value given =>
    cases given with
    | null => exact mapping []
    | map entries => exact mapping entries
    | _ => exact ⟨throw (.badLayer _), _, .known_insert [], fun v => rfl⟩

/-- A layer that says nothing about the sanitizer has no setting for it. -/
theorem LeavesSanitizer.settings_eq {layer : OptionsLayer} (silent : layer.LeavesSanitizer) :
    ∃ (before : ExceptT OptionError Logged Unit) (given : Settings),
      given.get? .dompurify = none ∧ layer.settings = (do before; return given) := by
  cases layer with
  | options o => exact silent.elim
  | value given =>
    cases given with
    | null => exact ⟨pure (), [], rfl, rfl⟩
    | map entries =>
      refine ⟨Settings.reportKeys (entries.map Prod.fst), Settings.known entries,
        Settings.get?_known_eq_none OptionName.ofKey?_eq_dompurify_iff silent, ?_⟩
      rw [settings, Settings.ofEntries_eq]
      rfl
    | _ => exact ⟨throw (.badLayer _), [], rfl, rfl⟩

end OptionsLayer

namespace RenderOptions

/-- A value given for the sanitizer in the last layer decides its setting and nothing else. -/
theorem merge_withSanitizer_last (first last : OptionsLayer) (v w : Value) :
    merge [first, last.withSanitizer v] =
      (fun o => { o with dompurify := .ofValue v }) <$> merge [first, last.withSanitizer w] := by
  obtain ⟨before, given, gives, settings_eq⟩ := last.settings_withSanitizer
  have layered (settings : Settings) :=
    (gives.append_right [] rfl).append_left settings |>.ofSettings_eq v w
  simp only [merge, OptionsLayer.allSettings, settings_eq, bind_assoc, pure_bind, map_bind, layered]

/-- A value given for the sanitizer in the first layer decides its setting and nothing else, if the
layer after it says nothing about the sanitizer. -/
theorem merge_withSanitizer_first (first : OptionsLayer) {last : OptionsLayer}
    (silent : last.LeavesSanitizer) (v w : Value) :
    merge [first.withSanitizer v, last] =
      (fun o => { o with dompurify := .ofValue v }) <$> merge [first.withSanitizer w, last] := by
  obtain ⟨before, given, gives, settings_eq⟩ := first.settings_withSanitizer
  obtain ⟨report, later, none_found, later_eq⟩ := silent.settings_eq
  have none_last : Settings.get? (later ++ []) .dompurify = none := by
    rw [List.append_nil, none_found]
  have layered := (gives.append_right _ none_last).ofSettings_eq v w
  simp only [merge, OptionsLayer.allSettings, settings_eq, later_eq, bind_assoc, pure_bind,
    map_bind, layered]

end RenderOptions

end MarkdownSite
