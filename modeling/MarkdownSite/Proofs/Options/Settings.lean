import MarkdownSite.Options.Basic
import MarkdownSite.Proofs.Value.Entries

/-!
# What settings give

The setting of an option that stands last counts. The settings of a mapping are those of its known
keys, and the reports about it depend on its keys alone.
-/

namespace MarkdownSite

namespace Settings

/-- A setting of an option counts unless a later one is found. -/
theorem get?_cons (name other : OptionName) (v : Value) (settings : Settings) :
    get? ((name, v) :: settings) other =
      (settings.get? other).or (if other = name then some v else none) := by
  unfold get?
  rw [List.reverse_cons, List.lookup_append]
  by_cases same : other = name
  · subst same
    simp
  · simp [List.lookup_cons, beq_eq_false_iff_ne.mpr same, same]

/-- Of settings one after another the later ones count first. -/
theorem get?_append (first second : Settings) (name : OptionName) :
    (first ++ second).get? name = (second.get? name).or (first.get? name) := by
  unfold get?
  rw [List.reverse_append, List.lookup_append]

/-- The settings that the known keys of a mapping give. -/
def known (entries : Entries) : Settings :=
  entries.filterMap fun (key, v) => (OptionName.ofKey? key).map (·, v)

/-- The reports about the unknown keys of a mapping. -/
def reportKeys : List Text → Logged Unit
  | [] => pure ()
  | key :: rest => do
    if (OptionName.ofKey? key).isNone then
      debug .options ("Ignoring unknown render option " ++ Text.quoted key)
    reportKeys rest

/-- The settings of a mapping are those of its known keys, after the reports about the others. -/
theorem ofEntries_eq (entries : Entries) :
    ofEntries entries = (do reportKeys (entries.map Prod.fst); return known entries) := by
  induction entries with
  | nil => rfl
  | cons entry rest ih =>
    obtain ⟨key, v⟩ := entry
    rw [ofEntries, ih]
    cases named : OptionName.ofKey? key with
    | some name => simp [reportKeys, known, named]
    | none => simp [reportKeys, known, named]

/-- The settings of one more entry whose key is known. -/
theorem known_cons_some {k : Text} {name : OptionName} (found : OptionName.ofKey? k = some name)
    (w : Value) (rest : Entries) : known ((k, w) :: rest) = (name, w) :: known rest := by
  simp [known, found]

/-- An entry whose key is not known gives no setting. -/
theorem known_cons_none {k : Text} (unknown : OptionName.ofKey? k = none) (w : Value)
    (rest : Entries) : known ((k, w) :: rest) = known rest := by
  simp [known, unknown]

variable {key : Text} {option : OptionName}

/-- Where a value replaces those under the only key of an option, it counts for this option if there
was one, and nothing changes for the others. -/
theorem get?_known_map (named : ∀ k, OptionName.ofKey? k = some option ↔ k = key) (v : Value)
    (entries : Entries) (name : OptionName) :
    (known (entries.map fun (k, w) => if k == key then (k, v) else (k, w))).get? name =
      if name = option then (if entries.any fun (k, _) => k == key then some v else none)
      else (known entries).get? name := by
  induction entries with
  | nil => simp [known, get?]
  | cons entry rest ih =>
    obtain ⟨k, w⟩ := entry
    rw [List.map_cons, List.any_cons]
    by_cases same : k = key
    · have found := (named k).mpr same
      simp only [same, beq_self_eq_true, ↓reduceIte, Bool.true_or]
      rw [← same, known_cons_some found, known_cons_some found, get?_cons, get?_cons, same, ih]
      by_cases asked : name = option
      · simp only [asked, ↓reduceIte]
        split <;> rfl
      · simp only [asked, ↓reduceIte]
    · have other : (k == key) = false := beq_false_of_ne same
      simp only [other, Bool.false_eq_true, ↓reduceIte, Bool.false_or]
      cases found : OptionName.ofKey? k with
      | none => rw [known_cons_none found, known_cons_none found, ih]
      | some another =>
        have differs : another ≠ option := by
          rintro rfl
          exact same ((named k).mp found)
        rw [known_cons_some found, known_cons_some found, get?_cons, get?_cons, ih]
        by_cases asked : name = option
        · have apart : name ≠ another := fun own => differs (own.symm.trans asked)
          simp only [if_pos asked, if_neg apart, Option.or_none]
        · rw [if_neg asked, if_neg asked]

/-- A value put under the only key of an option counts for this option, and nothing changes for the
others. -/
theorem get?_known_insert (named : ∀ k, OptionName.ofKey? k = some option ↔ k = key) (v : Value)
    (entries : Entries) (name : OptionName) :
    (known (entries.insert key v)).get? name =
      if name = option then some v else (known entries).get? name := by
  unfold Entries.insert
  split
  · rename_i present
    rw [get?_known_map named, if_pos present]
  · have last : known (entries ++ [(key, v)]) = known entries ++ [(option, v)] := by
      simp [known, (named key).mpr rfl]
    rw [last, get?_append, get?_cons]
    by_cases asked : name = option
    · rw [if_pos asked, if_pos asked]
      rfl
    · rw [if_neg asked, if_neg asked]
      rfl

/-- The settings of a mapping without the only key of an option give this option no value. -/
theorem get?_known_eq_none (named : ∀ k, OptionName.ofKey? k = some option ↔ k = key)
    {entries : Entries} (missing : entries.get? key = none) :
    (known entries).get? option = none := by
  induction entries with
  | nil => rfl
  | cons entry rest ih =>
    obtain ⟨k, w⟩ := entry
    rw [Entries.get?, List.lookup_cons] at missing
    split at missing
    · contradiction
    · rename_i differs
      have other : key ≠ k := by
        intro same
        rw [same, beq_self_eq_true] at differs
        contradiction
      cases found : OptionName.ofKey? k with
      | none =>
        rw [known_cons_none found]
        exact ih missing
      | some another =>
        have apart : option ≠ another := by
          rintro rfl
          exact other ((named k).mp found).symm
        rw [known_cons_some found, get?_cons, ih missing, if_neg apart]
        rfl

end Settings

namespace RenderOptions

/-- Values that agree on all options but that for the sanitizer give options that do so. -/
theorem ofValues_eq_map (first second : OptionName → Value)
    (same : ∀ name ≠ OptionName.dompurify, first name = second name) :
    ofValues first =
      (fun o => { o with dompurify := .ofValue (first .dompurify) }) <$> ofValues second := by
  obtain ⟨v, rfl⟩ : ∃ v, first = fun name => if name = .dompurify then v else second name := by
    refine ⟨first .dompurify, funext fun name => ?_⟩
    split
    · rename_i asked
      rw [asked]
    · rename_i other
      exact same name other
  simp only [ofValues, map_bind, map_pure, reduceCtorEq, ↓reduceIte]

end RenderOptions

end MarkdownSite
