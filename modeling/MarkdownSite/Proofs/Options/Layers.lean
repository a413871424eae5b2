import MarkdownSite.Options.Basic
import MarkdownSite.Proofs.Options.Coercion

/-!
# Options that layers give

An option is decided by the last layer that mentions it, in either spelling, and has its default if
none does. What names no option changes nothing, nor does the choice between two spellings.
-/

namespace MarkdownSite

/-! ## Spellings -/

namespace OptionName

/-- Whether a key is a spelling of an option. -/
def Spells (name : OptionName) (key : Text) : Prop := key = name.fieldName ∨ key = name.configKey

instance (name : OptionName) : DecidablePred name.Spells :=
  fun key => inferInstanceAs (Decidable (key = name.fieldName ∨ key = name.configKey))

/-- Each option is found by both its spellings. -/
theorem ofKey?_spelling (name : OptionName) :
    ofKey? name.fieldName = some name ∧ ofKey? name.configKey = some name := by
  have checked : ∀ name ∈ all, ofKey? name.fieldName = some name ∧
      ofKey? name.configKey = some name := by
    decide +kernel
  refine checked name ?_
  cases name <;> decide

/-- The name of a field leads to its option. -/
theorem ofFieldName?_fieldName (name : OptionName) : ofFieldName? name.fieldName = some name := by
  have checked : ∀ name ∈ all, ofFieldName? name.fieldName = some name := by
    decide +kernel
  refine checked name ?_
  cases name <;> decide

/-- A key names the option of which it is a spelling. -/
theorem ofKey?_eq_some_iff {key : Text} {name : OptionName} :
    ofKey? key = some name ↔ name.Spells key := by
  constructor
  · intro found
    have spelled := List.find?_some found
    rw [Bool.or_eq_true, beq_iff_eq, beq_iff_eq] at spelled
    exact spelled.imp Eq.symm Eq.symm
  · rintro (rfl | rfl)
    · exact (ofKey?_spelling name).1
    · exact (ofKey?_spelling name).2

end OptionName

/-! ## Layers -/

namespace OptionsLayer

/-- Whether a layer is one: options, a mapping or null. -/
def IsLayer : OptionsLayer → Prop
  | options _ | value .null | value (.map _) => True
  | value _ => False

/-- The value that a layer gives to an option, if it mentions it. Options mention every option, a
mapping those that its keys spell; the last such key counts. -/
def mention? (name : OptionName) : OptionsLayer → Option Value
  | options o => some (name.kind.toValue (o.get name))
  | value (.map entries) => (entries.reverse.find? fun entry => name.Spells entry.1).map Prod.snd
  | value _ => none

/-- The value that the last layer gives that mentions an option. -/
def lastMention? (layers : List OptionsLayer) (name : OptionName) : Option Value :=
  layers.reverse.findSome? (mention? name)

/-- A single layer mentions last what it mentions. -/
theorem lastMention?_singleton (layer : OptionsLayer) (name : OptionName) :
    lastMention? [layer] name = layer.mention? name := by
  unfold lastMention?
  rw [List.reverse_singleton, List.findSome?_singleton]

/-- Layers mention last what the later ones do, and else what the earlier ones do. -/
theorem lastMention?_append (first last : List OptionsLayer) (name : OptionName) :
    lastMention? (first ++ last) name = (lastMention? last name).or (lastMention? first name) := by
  unfold lastMention?
  rw [List.reverse_append, List.findSome?_append]

/-- After a layer its mention counts only where no later one is. -/
theorem lastMention?_cons (layer : OptionsLayer) (rest : List OptionsLayer) (name : OptionName) :
    lastMention? (layer :: rest) name = (lastMention? rest name).or (layer.mention? name) := by
  rw [← List.singleton_append, lastMention?_append, lastMention?_singleton]

/-- The error of what is no layer. -/
def fault? : OptionsLayer → Option OptionError
  | options _ | value .null | value (.map _) => none
  | value v => some (.badLayer v.kindName)

/-- The settings that a layer gives. -/
def given : OptionsLayer → Settings
  | options o => o.toSettings
  | value (.map entries) => Settings.known entries
  | value _ => []

/-- What is no layer has an error. -/
theorem fault?_eq_none_iff (layer : OptionsLayer) : layer.fault? = none ↔ layer.IsLayer := by
  cases layer with
  | options o => exact iff_of_true rfl trivial
  | value v => cases v <;> simp [fault?, IsLayer]

/-- Layers have no error. -/
theorem findSome?_fault?_eq_none {layers : List OptionsLayer} :
    layers.findSome? fault? = none ↔ ∀ layer ∈ layers, layer.IsLayer := by
  rw [List.findSome?_eq_none_iff]
  exact forall₂_congr fun layer _ => layer.fault?_eq_none_iff

/-- The error of what is no layer says so. -/
theorem eq_badLayer_of_fault? {layer : OptionsLayer} {e : OptionError}
    (fault : layer.fault? = some e) : ∃ kind, e = .badLayer kind := by
  cases layer with
  | options o => cases fault
  | value v =>
    cases v with
    | null => cases fault
    | map entries => cases fault
    | _ =>
      cases fault
      exact ⟨_, rfl⟩

/-- Reports about keys end no computation. -/
theorem gives_ofEntries (entries : Entries) :
    Gives (liftM (Settings.ofEntries entries) : ExceptT OptionError Logged Settings)
      (.ok (Settings.known entries)) := by
  intro records
  rw [Settings.ofEntries_eq]
  rfl

/-- A layer gives its settings, and what is none its error. -/
theorem gives_settings (layer : OptionsLayer) :
    Gives layer.settings (match layer.fault? with
      | some e => .error e
      | none => .ok layer.given) := by
  cases layer with
  | options o => exact gives_pure _
  | value v =>
    cases v with
    | null => exact gives_pure _
    | map entries => exact gives_ofEntries entries
    | _ => exact gives_throw _

/-- Layers give their settings one after another, or the first error. -/
theorem gives_allSettings (layers : List OptionsLayer) :
    Gives (allSettings layers) (match layers.findSome? fault? with
      | some e => .error e
      | none => .ok (layers.flatMap given)) := by
  induction layers with
  | nil => exact gives_pure _
  | cons layer rest ih =>
    have first := layer.gives_settings
    rw [List.findSome?_cons]
    unfold allSettings
    cases fault : layer.fault? with
    | some e =>
      rw [fault] at first
      exact first.bind_error
    | none =>
      rw [fault] at first
      refine first.bind_ok ?_
      cases later : rest.findSome? fault? with
      | some e =>
        rw [later] at ih
        exact ih.bind_error
      | none =>
        rw [later] at ih
        exact ih.bind_ok (gives_pure _)

/-- The settings of a mapping give to an option what its last spelling stands for. -/
theorem get?_known (entries : Entries) (name : OptionName) :
    (Settings.known entries).get? name =
      (entries.reverse.find? fun entry => name.Spells entry.1).map Prod.snd := by
  induction entries with
  | nil => rfl
  | cons entry rest ih =>
    obtain ⟨key, v⟩ := entry
    rw [List.reverse_cons, List.find?_append, Option.map_or, ← ih]
    cases named : OptionName.ofKey? key with
    | none =>
      have silent : ¬name.Spells key := by
        rw [← OptionName.ofKey?_eq_some_iff, named]
        simp
      rw [Settings.known_cons_none named]
      simp [silent]
    | some other =>
      rw [Settings.known_cons_some named, Settings.get?_cons]
      by_cases same : name = other
      · have spelled := OptionName.ofKey?_eq_some_iff.mp named
        simp [same, spelled]
      · have silent : ¬name.Spells key := by
          rw [← OptionName.ofKey?_eq_some_iff, named]
          simp [Ne.symm same]
        simp [same, silent]

/-- The settings of a layer give to an option what the layer mentions of it. -/
theorem get?_given (layer : OptionsLayer) (name : OptionName) :
    layer.given.get? name = layer.mention? name := by
  cases layer with
  | options o => exact o.get?_toSettings name
  | value v =>
    cases v with
    | map entries => exact get?_known entries name
    | _ => rfl

/-- The settings of layers give to an option what the last layer gives that mentions it. -/
theorem get?_flatMap_given (layers : List OptionsLayer) (name : OptionName) :
    Settings.get? (layers.flatMap given) name = lastMention? layers name := by
  induction layers with
  | nil => rfl
  | cons layer rest ih =>
    rw [List.flatMap_cons, Settings.get?_append, ih, get?_given, lastMention?_cons]

end OptionsLayer

namespace RenderOptions

open OptionsLayer

/-- The value of an option that counts among layers: what the last layer gives that mentions it, or
else the default. -/
def counting (layers : List OptionsLayer) (name : OptionName) : Value :=
  (lastMention? layers name).getD (name.kind.toValue (get {} name))

/-- Settings are read with defaults where layers give none. -/
theorem valueIn_flatMap_given (layers : List OptionsLayer) :
    valueIn (layers.flatMap given) = counting layers := by
  funext name
  unfold valueIn counting
  rw [Settings.get?_append, get?_flatMap_given, get?_toSettings]
  cases lastMention? layers name <;> rfl

/-- What is no layer is an error of the merge. -/
theorem gives_merge_error {layers : List OptionsLayer} {e : OptionError}
    (fault : layers.findSome? fault? = some e) : Gives (merge layers) (.error e) := by
  have settings := gives_allSettings layers
  rw [fault] at settings
  exact settings.bind_error

/-- Layers give what the values give that count among them. -/
theorem gives_merge_ok {layers : List OptionsLayer} {result : Except OptionError RenderOptions}
    (layered : layers.findSome? fault? = none) (given : Gives (ofValues (counting layers)) result) :
    Gives (merge layers) result := by
  have settings := gives_allSettings layers
  rw [layered] at settings
  refine settings.bind_ok ?_
  unfold ofSettings
  rwa [valueIn_flatMap_given]

/-! ## What layers give together -/

/-- What layers give together, or why they give nothing. -/
def merged (layers : List OptionsLayer) : Except OptionError RenderOptions :=
  ((merge layers).run.run []).1

/-- What layers give together does not depend on what has been reported before. -/
theorem gives_merge (layers : List OptionsLayer) : Gives (merge layers) (merged layers) := by
  have total : ∃ result, Gives (merge layers) result := by
    cases fault : layers.findSome? fault? with
    | some e => exact ⟨_, gives_merge_error fault⟩
    | none =>
      obtain ⟨result, given⟩ := exists_gives_ofValues (counting layers)
      exact ⟨result, gives_merge_ok fault given⟩
  obtain ⟨result, given⟩ := total
  rwa [merged, given []]

variable {layers others : List OptionsLayer}

/-- The first of several that is no layer decides the error. -/
theorem merged_eq_error {e : OptionError} (fault : layers.findSome? fault? = some e) :
    merged layers = .error e :=
  (gives_merge layers).unique (gives_merge_error fault)

/-- What layers give is what the values give that count among them. -/
theorem merged_eq_iff (layered : layers.findSome? fault? = none)
    {result : Except OptionError RenderOptions} :
    merged layers = result ↔ Gives (ofValues (counting layers)) result := by
  obtain ⟨given, values⟩ := exists_gives_ofValues (counting layers)
  rw [(gives_merge layers).unique (gives_merge_ok layered values)]
  constructor
  · rintro rfl
    exact values
  · exact values.unique

/-- Layers give the settings for which the values stand that count. -/
theorem merged_eq_ok_iff (layered : layers.findSome? fault? = none) {o : RenderOptions} :
    merged layers = .ok o ↔
      ∀ name : OptionName, name.kind.coerce (counting layers name) = .ok (o.get name) := by
  rw [merged_eq_iff layered, gives_ofValues_ok_iff]

/-- Layers give the same if the same faults are among them and the values that count stand for the
same settings. -/
theorem merged_congr (faults : layers.findSome? fault? = others.findSome? fault?)
    (same : ∀ name : OptionName,
      name.kind.coerce (counting layers name) = name.kind.coerce (counting others name)) :
    merged layers = merged others := by
  cases fault : layers.findSome? fault? with
  | some e => rw [merged_eq_error fault, merged_eq_error (faults.symm.trans fault)]
  | none =>
    have given := (merged_eq_iff fault).mp rfl
    exact ((merged_eq_iff (faults.symm.trans fault)).mpr (gives_ofValues_congr same given)).symm

/-- A layer may be replaced by others that are layers if it is and mention the same. -/
theorem merged_replace {layer : OptionsLayer} (replacements : List OptionsLayer)
    (faults : layer.fault? = replacements.findSome? fault?)
    (mentions : ∀ name, layer.mention? name = lastMention? replacements name)
    (before after : List OptionsLayer) :
    merged (before ++ layer :: after) = merged (before ++ (replacements ++ after)) := by
  refine merged_congr ?_ fun name => ?_
  · rw [List.findSome?_append, List.findSome?_append, List.findSome?_append, List.findSome?_cons,
      ← faults]
    cases layer.fault? <;> rfl
  · have same : lastMention? (before ++ layer :: after) name =
        lastMention? (before ++ (replacements ++ after)) name := by
      rw [lastMention?_append, lastMention?_cons, lastMention?_append, lastMention?_append,
        mentions name]
    unfold counting
    rw [same]

/-- An error about a layer arises exactly if one is neither options nor a mapping nor null. -/
theorem exists_badLayer_iff :
    (∃ kind, merged layers = .error (.badLayer kind)) ↔ ∃ layer ∈ layers, ¬layer.IsLayer := by
  constructor
  · rintro ⟨kind, failed⟩
    refine Classical.byContradiction fun absent => ?_
    have layered : ∀ layer ∈ layers, layer.IsLayer := fun layer member =>
      Classical.byContradiction fun none => absent ⟨layer, member, none⟩
    obtain ⟨name, refused⟩ := exists_coerce_eq_error
      ((merged_eq_iff (findSome?_fault?_eq_none.mpr layered)).mp failed)
    exact name.kind.coerce_ne_badLayer _ kind refused
  · rintro ⟨layer, member, none⟩
    cases fault : layers.findSome? fault? with
    | none => exact absurd (findSome?_fault?_eq_none.mp fault layer member) none
    | some e =>
      obtain ⟨bad, -, own⟩ := List.exists_of_findSome?_eq_some fault
      obtain ⟨kind, rfl⟩ := eq_badLayer_of_fault? own
      exact ⟨kind, merged_eq_error fault⟩

/-- Layers give options if the values that count stand for settings, and these are the settings for
which they stand. -/
theorem exists_merged_ok (layered : ∀ layer ∈ layers, layer.IsLayer)
    (settles : ∀ (name : OptionName) v, lastMention? layers name = some v →
      ∃ setting, name.kind.coerce v = .ok setting) :
    ∃ o, merged layers = .ok o ∧
      ∀ name : OptionName, name.kind.coerce (counting layers name) = .ok (o.get name) := by
  have each (name : OptionName) :
      ∃ setting, name.kind.coerce (counting layers name) = .ok setting := by
    unfold counting
    cases mentioned : lastMention? layers name with
    | none => exact ⟨_, name.kind.coerce_toValue _⟩
    | some v => exact settles name v mentioned
  obtain ⟨setting, settle⟩ := Classical.axiomOfChoice each
  have own (name : OptionName) :
      name.kind.coerce (counting layers name) = .ok ((ofGet setting).get name) := by
    rw [settle name, get_ofGet]
  exact ⟨_, (merged_eq_ok_iff (findSome?_fault?_eq_none.mpr layered)).mpr own, own⟩

/-- A key that is no spelling changes nothing. -/
theorem merged_unknown {key : Text} (unknown : ∀ name : OptionName, ¬name.Spells key)
    (before : List OptionsLayer) (first last : Entries) (v : Value) (after : List OptionsLayer) :
    merged (before ++ .value (.map (first ++ (key, v) :: last)) :: after) =
      merged (before ++ .value (.map (first ++ last)) :: after) := by
  refine merged_replace [.value (.map (first ++ last))] rfl (fun name => ?_) before after
  rw [lastMention?_singleton]
  simp [mention?, unknown name]

/-- Which spelling of an option a key is changes nothing. -/
theorem merged_respelled {name : OptionName} {key other : Text} (spelled : name.Spells key)
    (respelled : name.Spells other) (before : List OptionsLayer) (first last : Entries) (v : Value)
    (after : List OptionsLayer) :
    merged (before ++ .value (.map (first ++ (key, v) :: last)) :: after) =
      merged (before ++ .value (.map (first ++ (other, v) :: last)) :: after) := by
  refine merged_replace [.value (.map (first ++ (other, v) :: last))] rfl (fun asked => ?_)
    before after
  have same : asked.Spells key ↔ asked.Spells other := by
    rw [← OptionName.ofKey?_eq_some_iff, ← OptionName.ofKey?_eq_some_iff,
      OptionName.ofKey?_eq_some_iff.mpr spelled, OptionName.ofKey?_eq_some_iff.mpr respelled]
  rw [lastMention?_singleton]
  unfold mention?
  by_cases spells : asked.Spells other
  · cases later : last.reverse.find? fun entry => asked.Spells entry.1 <;>
      simp [same, spells, later]
  · simp [same, spells]

/-- **The last layer that mentions an option decides it.** Layers that are options, mappings or null
give options if the values that count stand for settings: each option is the setting for which the
value stands that the last layer gives that mentions it, under either spelling, and the default if
none does. Null, keys that are no spelling and the choice of a spelling change nothing; an error
about a layer arises exactly if one is neither options nor a mapping nor null. -/
theorem merged_takes_last_mention (layers : List OptionsLayer) :
    Gives (merge layers) (merged layers) ∧
    ((∃ kind, merged layers = .error (.badLayer kind)) ↔ ∃ layer ∈ layers, ¬layer.IsLayer) ∧
    ((∀ layer ∈ layers, layer.IsLayer) →
      (∀ (name : OptionName) v, lastMention? layers name = some v →
        ∃ setting, name.kind.coerce v = .ok setting) →
      ∃ o, merged layers = .ok o ∧ ∀ name : OptionName,
        match lastMention? layers name with
        | some v => name.kind.coerce v = .ok (o.get name)
        | none => o.get name = get {} name) ∧
    (∀ before after, merged (before ++ .value .null :: after) = merged (before ++ after)) ∧
    (∀ before first key v last after, (∀ name : OptionName, ¬name.Spells key) →
      merged (before ++ .value (.map (first ++ (key, v) :: last)) :: after) =
        merged (before ++ .value (.map (first ++ last)) :: after)) ∧
    (∀ before first key other v last after, ∀ name : OptionName, name.Spells key →
      name.Spells other →
      merged (before ++ .value (.map (first ++ (key, v) :: last)) :: after) =
        merged (before ++ .value (.map (first ++ (other, v) :: last)) :: after)) := by
  refine ⟨gives_merge layers, exists_badLayer_iff, ?_, ?_, ?_, ?_⟩
  · intro layered settles
    obtain ⟨o, given, own⟩ := exists_merged_ok layered settles
    refine ⟨o, given, fun name => ?_⟩
    have counted := own name
    unfold counting at counted
    cases mentioned : lastMention? layers name with
    | some v =>
      rw [mentioned] at counted
      exact counted
    | none =>
      rw [mentioned, Option.getD_none, name.kind.coerce_toValue] at counted
      exact (Except.ok.inj counted).symm
  · intro before after
    exact merged_replace [] rfl (fun name => rfl) before after
  · intro before first key v last after unknown
    exact merged_unknown unknown before first last v after
  · intro before first key other v last after name spelled respelled
    exact merged_respelled spelled respelled before first last v after

end RenderOptions

end MarkdownSite
