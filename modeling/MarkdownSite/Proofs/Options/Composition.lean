import MarkdownSite.Proofs.Options.Layers

/-!
# Options that layers give in turn

What several layers give is itself a layer that stands for them, and options after which no layer
comes are what is given. Replacing fields of options is putting a mapping of these fields over them,
so that successive replacements are one merge.
-/

namespace MarkdownSite

/-- Whether fields can replace those of options: each names an option, by its own name, and has a
value that stands for one of its settings. -/
def Entries.CanReplace (fields : Entries) : Prop :=
  ∀ field ∈ fields, ∃ name : OptionName, field.1 = name.fieldName ∧
    ∃ setting, name.kind.coerce field.2 = .ok setting

/-- Fields under the names of options give the settings that they give as keys of a mapping. -/
theorem Settings.ofFields_eq_known {fields : Entries}
    (named : ∀ field ∈ fields, ∃ name : OptionName, field.1 = name.fieldName) :
    ofFields fields = .ok (known fields) := by
  induction fields with
  | nil => rfl
  | cons field rest ih =>
    obtain ⟨key, v⟩ := field
    obtain ⟨⟨name, rfl⟩, later⟩ := List.forall_mem_cons.mp named
    have found := (OptionName.ofKey?_spelling name).1
    unfold ofFields
    rw [OptionName.ofFieldName?_fieldName, ih later, known_cons_some found]
    rfl

namespace OptionsLayer

/-- The layers that mappings of fields are. -/
def ofUpdates (updates : List Entries) : List OptionsLayer :=
  updates.map fun fields => .value (.map fields)

/-- Mappings are layers. -/
theorem isLayer_of_mem_ofUpdates {updates : List Entries} {layer : OptionsLayer}
    (member : layer ∈ ofUpdates updates) : layer.IsLayer := by
  obtain ⟨fields, -, rfl⟩ := List.mem_map.mp member
  trivial

/-- A mapping mentions what its later entries do, and else what its earlier ones do. -/
theorem mention?_append (first last : Entries) (name : OptionName) :
    mention? name (.value (.map (first ++ last))) =
      (mention? name (.value (.map last))).or (mention? name (.value (.map first))) := by
  simp [mention?, Option.map_or]

/-- Mappings one after another mention what a single mapping with all their entries does. -/
theorem mention?_flatten (updates : List Entries) (name : OptionName) :
    mention? name (.value (.map updates.flatten)) = lastMention? (ofUpdates updates) name := by
  induction updates with
  | nil => rfl
  | cons fields rest ih =>
    rw [List.flatten_cons, mention?_append, ih]
    exact (lastMention?_cons (.value (.map fields)) (ofUpdates rest) name).symm

/-- A value that counts among fields that can replace those of options stands for a setting. -/
theorem exists_coerce_mention? {fields : Entries} (settled : fields.CanReplace) {name : OptionName}
    {v : Value} (mentioned : mention? name (.value (.map fields)) = some v) :
    ∃ setting, name.kind.coerce v = .ok setting := by
  obtain ⟨⟨key, w⟩, found, rfl⟩ := Option.map_eq_some_iff.mp mentioned
  have spelled : name.Spells key := by simpa using List.find?_some found
  have member := List.mem_reverse.mp (List.mem_of_find?_eq_some found)
  obtain ⟨other, rfl, settle⟩ := settled _ member
  have same : name = other := by
    have one := OptionName.ofKey?_eq_some_iff.mpr spelled
    rw [(OptionName.ofKey?_spelling other).1] at one
    exact (Option.some.inj one).symm
  rw [same]
  exact settle

end OptionsLayer

namespace RenderOptions

open OptionsLayer

/-! ## Layers in two parts -/

/-- Options that layers give count as these layers do. -/
theorem coerce_counting_options {first : List OptionsLayer} {o : RenderOptions}
    (given : merged first = .ok o) (rest : List OptionsLayer) (name : OptionName) :
    name.kind.coerce (counting (.options o :: rest) name) =
      name.kind.coerce (counting (first ++ rest) name) := by
  have layered : first.findSome? fault? = none := by
    cases fault : first.findSome? fault? with
    | none => rfl
    | some e => cases (merged_eq_error fault).symm.trans given
  have own := (merged_eq_ok_iff layered).mp given name
  unfold counting at own ⊢
  rw [lastMention?_cons, lastMention?_append]
  cases lastMention? rest name with
  | some v => rfl
  | none =>
    rw [Option.none_or, Option.none_or, own]
    exact name.kind.coerce_toValue (o.get name)

/-- Options that layers give may stand for them. -/
theorem merged_options_append {first : List OptionsLayer} {o : RenderOptions}
    (given : merged first = .ok o) (rest : List OptionsLayer) :
    merged (.options o :: rest) = merged (first ++ rest) := by
  refine merged_congr ?_ (coerce_counting_options given rest)
  cases fault : first.findSome? fault? with
  | some e => cases (merged_eq_error fault).symm.trans given
  | none =>
    rw [List.findSome?_append, fault]
    rfl

/-- Options after layers are what is given. -/
theorem merged_append_options {layers : List OptionsLayer}
    (layered : ∀ layer ∈ layers, layer.IsLayer) (o : RenderOptions) :
    merged (layers ++ [.options o]) = .ok o := by
  have all : ∀ layer ∈ layers ++ [.options o], layer.IsLayer := by
    intro layer member
    rcases List.mem_append.mp member with inside | last
    · exact layered layer inside
    · rw [List.mem_singleton.mp last]
      trivial
  refine (merged_eq_ok_iff (findSome?_fault?_eq_none.mpr all)).mpr fun name => ?_
  unfold counting
  rw [lastMention?_append, lastMention?_singleton]
  exact name.kind.coerce_toValue (o.get name)

/-! ## Replaced fields -/

/-- Options with some fields replaced are what a mapping of these fields gives over them. -/
theorem gives_update (o : RenderOptions) {fields : Entries} (settled : fields.CanReplace) :
    Gives (o.update fields) (merged [.options o, .value (.map fields)]) := by
  have named : Settings.ofFields fields = .ok (Settings.known fields) :=
    Settings.ofFields_eq_known fun field member => (settled field member).imp fun _ => And.left
  have settings := gives_except (Settings.ofFields fields)
  unfold update
  rw [named] at settings ⊢
  refine settings.bind_ok ?_
  have layers : o.toSettings ++ Settings.known fields =
      [OptionsLayer.options o, .value (.map fields)].flatMap given := by
    simp [given]
  unfold ofSettings
  rw [layers, valueIn_flatMap_given]
  exact (merged_eq_iff rfl).mp rfl

/-- Fields that can replace those of options give options over them. -/
theorem exists_merged_fields (o : RenderOptions) {fields : Entries} (settled : fields.CanReplace) :
    ∃ updated, merged [.options o, .value (.map fields)] = .ok updated := by
  have layered : ∀ layer ∈ [OptionsLayer.options o, .value (.map fields)], layer.IsLayer := by
    simp [IsLayer]
  have settles : ∀ (name : OptionName) v,
      lastMention? [.options o, .value (.map fields)] name = some v →
        ∃ setting, name.kind.coerce v = .ok setting := by
    intro name v mentioned
    rw [lastMention?_cons, lastMention?_singleton] at mentioned
    cases replaced : mention? name (.value (.map fields)) with
    | some w =>
      rw [replaced] at mentioned
      cases mentioned
      exact exists_coerce_mention? settled replaced
    | none =>
      rw [replaced] at mentioned
      cases mentioned
      exact ⟨o.get name, name.kind.coerce_toValue (o.get name)⟩
  obtain ⟨updated, given, -⟩ := exists_merged_ok layered settles
  exact ⟨updated, given⟩

/-- Successive replacements are what their mappings give one after another. -/
theorem gives_updates (updates : List Entries) (settled : ∀ fields ∈ updates, fields.CanReplace)
    (o : RenderOptions) :
    ∃ updated, Gives (updates.foldlM update o) (.ok updated) ∧
      merged (.options o :: ofUpdates updates) = .ok updated := by
  induction updates generalizing o with
  | nil =>
    have alone := merged_append_options (List.forall_mem_nil OptionsLayer.IsLayer) o
    exact ⟨o, gives_pure o, alone⟩
  | cons fields rest ih =>
    obtain ⟨first, later⟩ := List.forall_mem_cons.mp settled
    obtain ⟨next, replacing⟩ := exists_merged_fields o first
    obtain ⟨updated, given, together⟩ := ih later next
    have replaced := gives_update o first
    rw [replacing] at replaced
    refine ⟨updated, ?_, (merged_options_append replacing (ofUpdates rest)).symm.trans together⟩
    rw [List.foldlM_cons]
    exact replaced.bind_ok given

/-- Mappings over options one after another give what a single mapping with all their entries
does. -/
theorem merged_flatten (o : RenderOptions) (updates : List Entries) :
    merged [.options o, .value (.map updates.flatten)] =
      merged (.options o :: ofUpdates updates) := by
  have faultless : fault? (.value (.map updates.flatten)) =
      (ofUpdates updates).findSome? fault? :=
    (findSome?_fault?_eq_none.mpr fun _ => isLayer_of_mem_ofUpdates).symm
  have replaced := merged_replace (ofUpdates updates) faultless (mention?_flatten updates)
    [.options o] []
  rwa [List.append_nil] at replaced

/-- Fields of several replacements can replace those of options together. -/
theorem canReplace_flatten {updates : List Entries}
    (settled : ∀ fields ∈ updates, fields.CanReplace) : Entries.CanReplace updates.flatten := by
  intro field member
  obtain ⟨fields, inside, own⟩ := List.mem_flatten.mp member
  exact settled fields inside field own

/-- **Merging composes.** Options that layers give may stand for these layers before any others;
options after layers are what is given; and options whose fields are replaced successively, each by
a value that stands for a setting, are what the mappings give over them, and what replacing all
those fields at once gives, a later value before an earlier one. -/
theorem merging_composes :
    (∀ first rest o, merged first = .ok o →
      merged (.options o :: rest) = merged (first ++ rest)) ∧
    (∀ layers o, (∀ layer ∈ layers, OptionsLayer.IsLayer layer) →
      merged (layers ++ [.options o]) = .ok o) ∧
    (∀ (o : RenderOptions) (updates : List Entries),
      (∀ fields ∈ updates, fields.CanReplace) →
      ∃ updated, Gives (updates.foldlM update o) (.ok updated) ∧
        merged (.options o :: updates.map fun fields => .value (.map fields)) = .ok updated ∧
        Gives (o.update updates.flatten) (.ok updated)) := by
  refine ⟨fun first rest o given => merged_options_append given rest,
    fun layers o layered => merged_append_options layered o, fun o updates settled => ?_⟩
  obtain ⟨updated, given, together⟩ := gives_updates updates settled o
  refine ⟨updated, given, together, ?_⟩
  rw [← together, ← merged_flatten o updates]
  exact gives_update o (canReplace_flatten settled)

end RenderOptions

end MarkdownSite
