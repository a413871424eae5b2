import MarkdownSite.Proofs.Options.Layers

/-!
# Values of any kind as options

Mappings may give any value to an option. What options hold is always of the kind of each option,
and nearly every value stands for such a setting: only an infinite number stands for no letter case,
and only a mapping whose excluded hosts are a number or true says nothing about links. Layers that
are mappings or null give options exactly if no such value counts among them.
-/

namespace MarkdownSite

/-! ## Values that stand for nothing -/

/-- Whether a value is an infinite number, of either sign. -/
def Value.IsInfinite (v : Value) : Prop := ∃ negative, v = .float (.infinite negative)

/-- Whether a value counts as true and has no values of its own, as a text, a list and a mapping
have: it is true or a number other than zero. -/
def Value.IsLoneTruth (v : Value) : Prop :=
  v.isTruthy = true ∧ ((∃ b, v = .bool b) ∨ (∃ n, v = .int n) ∨ ∃ x, v = .float x)

/-- Whether a value is a mapping whose excluded hosts cannot be listed. -/
def Value.HidesHosts (v : Value) : Prop :=
  ∃ fields hosts, v = .map fields ∧ Entries.get? fields "exclude" = some hosts ∧ hosts.IsLoneTruth

namespace OptionKind

/-- A value reads as infinite exactly if it is an infinite number. -/
theorem readInt_eq_infinite_iff (v : Value) : v.readInt = .infinite ↔ v.IsInfinite := by
  constructor
  · intro read
    cases v with
    | float x =>
      cases x with
      | infinite negative => exact ⟨negative, rfl⟩
      | finite negative mantissa exponent => cases read
      | nan => cases read
    | text t =>
      unfold Value.readInt at read
      cases number : Text.toInt? t <;> simp [number] at read
    | _ => cases read
  · rintro ⟨negative, rfl⟩
    rfl

/-- A value stands for no letter case exactly if it is an infinite number. -/
theorem letterCaseOf_eq_error_iff (v : Value) :
    (∃ e, letterCaseOf v = .error e) ↔ v.IsInfinite := by
  rw [← readInt_eq_infinite_iff]
  unfold letterCaseOf
  constructor
  · rintro ⟨e, refused⟩
    split at refused <;> simp_all
  · intro read
    exact ⟨.infiniteTransform, by rw [read]⟩

/-- Hosts cannot be listed exactly if they are true or a number other than zero. -/
theorem excludedHosts_eq_error_iff (v : Value) :
    (∃ e, excludedHosts v = .error e) ↔ v.IsLoneTruth := by
  unfold excludedHosts Value.IsLoneTruth
  cases truthy : v.isTruthy with
  | false => simp
  | true => cases v <;> simp_all [Value.isTruthy]

/-- A value says nothing about links exactly if it is a mapping whose excluded hosts cannot be
listed. -/
theorem ofValue_eq_error_iff (v : Value) :
    (∃ e, ExternalLinkOptions.ofValue v = .error e) ↔ v.HidesHosts := by
  constructor
  · rintro ⟨e, refused⟩
    unfold ExternalLinkOptions.ofValue at refused
    split at refused
    · rename_i fields
      have unlisted :
          ∃ e, excludedHosts ((Entries.get? fields "exclude").getD .null) = .error e := by
        unfold ExternalLinkOptions.ofFields at refused
        cases read : excludedHosts ((Entries.get? fields "exclude").getD .null) with
        | error other => exact ⟨other, rfl⟩
        | ok hosts =>
          rw [read] at refused
          cases refused
      cases given : Entries.get? fields "exclude" with
      | none =>
        rw [given] at unlisted
        obtain ⟨e, none⟩ := unlisted
        cases none
      | some hosts =>
        rw [given, Option.getD_some, excludedHosts_eq_error_iff] at unlisted
        exact ⟨fields, hosts, rfl, given, unlisted⟩
    · cases refused
  · rintro ⟨fields, hosts, rfl, given, lone⟩
    obtain ⟨e, unlisted⟩ := (excludedHosts_eq_error_iff hosts).mpr lone
    refine ⟨e, ?_⟩
    change ExternalLinkOptions.ofFields fields = .error e
    unfold ExternalLinkOptions.ofFields
    rw [given, Option.getD_some, unlisted]
    rfl

/-! ## Settings as values -/

/-- The values as which the settings of a kind are written: truth values, texts of four characters,
the numbers zero, one and two, mappings of two truth values and a list of texts, a truth value or a
mapping, and texts. -/
def Admits : OptionKind → Value → Prop
  | flag, v => ∃ b, v = .bool b
  | glyphs, v => ∃ t : Text, t.length = 4 ∧ v = .text t
  | letterCase, v => v = .int 0 ∨ v = .int 1 ∨ v = .int 2
  | links, v => ∃ enable nofollow, ∃ hosts : List Text,
      v = .map [("enable", .bool enable), ("exclude", .list (hosts.map .text)),
        ("nofollow", .bool nofollow)]
  | sanitizer, v => (∃ b, v = .bool b) ∨ ∃ policy, v = .map policy
  | words, v => ∃ t, v = .text t

/-- **Every setting is written as a value of its kind.** -/
theorem admits_toValue (kind : OptionKind) (setting : kind.Setting) :
    kind.Admits (kind.toValue setting) := by
  cases kind with
  | flag => exact ⟨setting, rfl⟩
  | glyphs => exact ⟨Text.Quotes.toText setting, rfl, rfl⟩
  | letterCase =>
    cases setting with
    | none => exact .inl rfl
    | lower => exact .inr (.inl rfl)
    | upper => exact .inr (.inr rfl)
  | links => exact ⟨_, _, _, rfl⟩
  | sanitizer =>
    cases setting with
    | off => exact .inl ⟨false, rfl⟩
    | on => exact .inl ⟨true, rfl⟩
    | custom policy => exact .inr ⟨policy, rfl⟩
  | words => exact ⟨setting, rfl⟩

end OptionKind

namespace OptionsLayer

/-- Whether a layer is a mapping, whatever its keys and its values are, or null. -/
def IsConfigured (layer : OptionsLayer) : Prop :=
  layer = .value .null ∨ ∃ entries, layer = .value (.map entries)

/-- A mapping and null are layers. -/
theorem IsConfigured.isLayer {layer : OptionsLayer} (configured : layer.IsConfigured) :
    layer.IsLayer := by
  rcases configured with rfl | ⟨entries, rfl⟩
  · trivial
  · trivial

end OptionsLayer

namespace RenderOptions

open OptionsLayer

/-- Layers give no options exactly if a value that counts among them stands for no setting. -/
theorem exists_merged_error_iff {layers : List OptionsLayer}
    (layered : ∀ layer ∈ layers, layer.IsLayer) :
    (∃ e, merged layers = .error e) ↔
      (counting layers .modifyAnchors).IsInfinite ∨ (counting layers .externalLink).HidesHosts := by
  have faultless := findSome?_fault?_eq_none.mpr layered
  rw [← OptionKind.letterCaseOf_eq_error_iff, ← OptionKind.ofValue_eq_error_iff]
  constructor
  · rintro ⟨e, failed⟩
    obtain ⟨name, refused⟩ := exists_coerce_eq_error ((merged_eq_iff faultless).mp failed)
    cases name with
    | modifyAnchors => exact .inl ⟨e, refused⟩
    | externalLink => exact .inr ⟨e, refused⟩
    | _ => cases refused
  · intro refused
    cases failed : merged layers with
    | error e => exact ⟨e, rfl⟩
    | ok o =>
      have settled := (merged_eq_ok_iff faultless).mp failed
      rcases refused with ⟨e, letterCase⟩ | ⟨e, links⟩
      · cases letterCase.symm.trans (settled .modifyAnchors)
      · cases links.symm.trans (settled .externalLink)

/-- **Mappings with values of any kind give options exactly if no infinite number counts as the
letter case of ids and no mapping whose excluded hosts cannot be listed counts for links.** The
options then hold a setting of the right kind for every option, and it is the one for which the
value stands that counts. -/
theorem merged_configured_iff {layers : List OptionsLayer}
    (configured : ∀ layer ∈ layers, layer.IsConfigured) :
    Gives (merge layers) (merged layers) ∧
    ((∃ o, merged layers = .ok o ∧ ∀ name : OptionName,
        name.kind.coerce (counting layers name) = .ok (o.get name) ∧
          name.kind.Admits (name.kind.toValue (o.get name))) ↔
      ¬(counting layers .modifyAnchors).IsInfinite ∧
        ¬(counting layers .externalLink).HidesHosts) := by
  have layered : ∀ layer ∈ layers, layer.IsLayer := fun layer member =>
    (configured layer member).isLayer
  refine ⟨gives_merge layers, ?_⟩
  rw [← not_or, ← exists_merged_error_iff layered]
  constructor
  · rintro ⟨o, given, -⟩ ⟨e, failed⟩
    cases given.symm.trans failed
  · intro sound
    cases given : merged layers with
    | error e => exact absurd ⟨e, given⟩ sound
    | ok o =>
      have settled := (merged_eq_ok_iff (findSome?_fault?_eq_none.mpr layered)).mp given
      exact ⟨o, rfl, fun name => ⟨settled name, name.kind.admits_toValue (o.get name)⟩⟩

/-- Values that no option can use, under known and unknown keys, give options. -/
theorem merged_configured_of_misfits :
    ∃ o, merged [.value (.map [("quotes", .list [.null]), ("langPrefix", .map []), ("", .int 7),
        ("modifyAnchors", .float .nan), ("external_link", .map [("exclude", .list [.int 5])])])] =
      .ok o := by
  obtain ⟨-, settles⟩ := merged_configured_iff (List.forall_mem_singleton.mpr
    (.inr ⟨[("quotes", .list [.null]), ("langPrefix", .map []), ("", .int 7),
      ("modifyAnchors", .float .nan), ("external_link", .map [("exclude", .list [.int 5])])], rfl⟩))
  refine (settles.mpr ⟨?_, ?_⟩).imp fun o given => given.1
  · rintro ⟨negative, infinite⟩
    cases infinite
  · rintro ⟨fields, hosts, same, given, -, lone⟩
    cases same
    cases given
    simp at lone

/-- A number in the place of the excluded hosts ends the merge. -/
theorem merged_number_as_hosts :
    merged [.value (.map [("external_link", .map [("exclude", .int 5)])])] =
      .error (.excludeNotIterable "int") := rfl

end RenderOptions

end MarkdownSite
