import MarkdownSite.Proofs.Value.Ends
import MarkdownSite.Proofs.Value.Entries
import MarkdownSite.Sanitizer.Policy
import Mathlib.Data.List.Nodup

/-!
# What additions allow

Names that options add to a policy stand behind the ones it has, each once and only if it is missing.
The policy with them allows what the policy without them allows and the names that are added, and in
all else they are the same.
-/

namespace MarkdownSite.Sanitizer

/-! ## Names -/

/-- Names that are added stand behind the others: the missing ones, each where it is first. -/
theorem addNames_eq (names extra : List Text) :
    addNames names extra =
      names ++ (extra.filter fun name => !names.contains name).eraseDups := by
  induction extra generalizing names with
  | nil => simp [addNames]
  | cons name extra ih =>
    have next : addNames names (name :: extra) =
        addNames (if names.contains name then names else names ++ [name]) extra := rfl
    rw [next, ih]
    by_cases known : names.contains name = true
    · rw [if_pos known, List.filter_cons_of_neg (by simpa using known)]
    · have others : (extra.filter fun n => !(names ++ [name]).contains n) =
          (extra.filter fun n => !names.contains n).filter fun n => !n == name := by
        rw [List.filter_filter]
        refine List.filter_congr fun n _ => ?_
        rw [List.contains_eq_mem, List.contains_eq_mem]
        by_cases same : n = name <;> simp [same]
      rw [if_neg known, others, List.filter_cons_of_pos (by simpa using known),
        List.eraseDups_cons, List.append_assoc, List.singleton_append]

/-- The names after an addition are the old and the new ones. -/
theorem mem_addNames {names extra : List Text} {name : Text} :
    name ∈ addNames names extra ↔ name ∈ names ∨ name ∈ extra := by
  rw [addNames_eq, List.mem_append, List.mem_eraseDups, List.mem_filter, List.contains_eq_mem]
  by_cases known : name ∈ names <;> simp [known]

/-! ## Tables -/

namespace AttributeTable

/-- The names that a table has for an element. -/
def namesFor (table : AttributeTable) (tag : Text) : List Text := (table.lookup tag).getD []

variable {table base extra : AttributeTable}

/-- An element that a table does not have has no names there. -/
theorem namesFor_of_absent {tag : Text} (absent : tag ∉ table.map Prod.fst) :
    table.namesFor tag = [] := by
  have missing : table.lookup tag = none := by
    rw [List.lookup_eq_none_iff]
    intro entry member
    exact bne_iff_ne.mpr fun same => absent (List.mem_map.mpr ⟨entry, member, same.symm⟩)
  rw [namesFor, missing, Option.getD_none]

/-- An entry that is added changes the names of its own element and of no other. -/
theorem namesFor_addEntry (table : AttributeTable) (tag : Text) (extra : List Text) (key : Text) :
    (table.addEntry tag extra).namesFor key =
      if key = tag then addNames (table.namesFor tag) extra else table.namesFor key := by
  unfold addEntry namesFor
  by_cases known : (table.lookup tag).isSome = true
  · rw [if_pos known, Entries.lookup_map fun _ => by rfl]
    obtain ⟨names, found⟩ := Option.isSome_iff_exists.mp known
    by_cases same : key = tag
    · simp [same, found]
    · simp [same]
  · rw [if_neg known, List.lookup_append]
    rw [Option.not_isSome_iff_eq_none] at known
    by_cases same : key = tag
    · simp [same, known]
    · simp [same, List.lookup_cons, beq_false_of_ne same]

/-- An entry that is added brings its own element and no other. -/
theorem mem_keys_addEntry {tag key : Text} {extra : List Text} :
    key ∈ (table.addEntry tag extra).map Prod.fst ↔ key ∈ table.map Prod.fst ∨ key = tag := by
  unfold addEntry
  split
  · next known =>
    have there : tag ∈ table.map Prod.fst := by
      obtain ⟨entry, member, same⟩ := List.lookup_isSome_iff.mp known
      exact List.mem_map.mpr ⟨entry, member, (beq_iff_eq.mp same).symm⟩
    rw [List.map_map]
    exact ⟨.inl, fun either => either.elim id fun same => same ▸ there⟩
  · simp

/-- A table that has each element once has it once after an entry is added. -/
theorem nodup_addEntry (distinct : (table.map Prod.fst).Nodup) (tag : Text) (extra : List Text) :
    ((table.addEntry tag extra).map Prod.fst).Nodup := by
  unfold addEntry
  split
  · simpa [Function.comp_def] using distinct
  · next unknown =>
    have absent : tag ∉ table.map Prod.fst := fun member => by
      obtain ⟨entry, present, same⟩ := List.mem_map.mp member
      exact unknown (List.lookup_isSome_iff.mpr ⟨entry, present, by simp [same]⟩)
    rw [List.map_append, List.map_singleton, ← List.concat_eq_append]
    exact List.Nodup.concat absent distinct

/-- A merged table is a base table with extra names: it has the elements of both, and for each of
them the names of the base as they are and behind them the extra ones that are missing there, each
where it is first. -/
structure IsMergeOf (base extra merged : AttributeTable) : Prop where
  /-- Each element is once in the table. -/
  distinct : (merged.map Prod.fst).Nodup
  /-- The elements are those of both. -/
  keys : ∀ tag, tag ∈ merged.map Prod.fst ↔ tag ∈ base.map Prod.fst ∨ tag ∈ extra.map Prod.fst
  /-- The names of an element. -/
  names : ∀ tag, merged.namesFor tag = base.namesFor tag ++
    ((extra.namesFor tag).filter fun name => !(base.namesFor tag).contains name).eraseDups

/-- The names of an element after a merge are those of the base with the extra ones. -/
theorem namesFor_merge (distinct : (extra.map Prod.fst).Nodup) (base : AttributeTable)
    (tag : Text) :
    (base.merge extra).namesFor tag = addNames (base.namesFor tag) (extra.namesFor tag) := by
  induction extra generalizing base with
  | nil => rfl
  | cons entry extra ih =>
    obtain ⟨key, names⟩ := entry
    obtain ⟨first, others⟩ := List.nodup_cons.mp distinct
    have next : base.merge ((key, names) :: extra) = (base.addEntry key names).merge extra := rfl
    rw [next, ih others, namesFor_addEntry]
    by_cases same : tag = key
    · subst same
      rw [if_pos rfl, namesFor_of_absent first]
      simp [namesFor, addNames]
    · rw [if_neg same]
      simp [namesFor, List.lookup_cons, beq_false_of_ne same]

/-- The elements after a merge are those of both tables. -/
theorem mem_keys_merge {tag : Text} (base extra : AttributeTable) :
    tag ∈ (base.merge extra).map Prod.fst ↔
      tag ∈ base.map Prod.fst ∨ tag ∈ extra.map Prod.fst := by
  induction extra generalizing base with
  | nil => simp [merge]
  | cons entry extra ih =>
    have next : base.merge (entry :: extra) = (base.addEntry entry.1 entry.2).merge extra := rfl
    rw [next, ih, mem_keys_addEntry, List.map_cons, List.mem_cons, or_assoc]

/-- A table that has each element once has it once after a merge. -/
theorem nodup_merge {base : AttributeTable} (distinct : (base.map Prod.fst).Nodup)
    (extra : AttributeTable) : ((base.merge extra).map Prod.fst).Nodup := by
  induction extra generalizing base with
  | nil => exact distinct
  | cons entry extra ih => exact ih (nodup_addEntry distinct entry.1 entry.2)

/-- Merging two tables gives a merged table. -/
theorem isMergeOf_merge (baseDistinct : (base.map Prod.fst).Nodup)
    (extraDistinct : (extra.map Prod.fst).Nodup) : IsMergeOf base extra (base.merge extra) where
  distinct := nodup_merge baseDistinct extra
  keys _ := mem_keys_merge base extra
  names tag := by rw [namesFor_merge extraDistinct, addNames_eq]

/-- A name that stands for an element after a merge stood there before or is one of the extra
ones. -/
theorem mem_namesFor_merge {tag name : Text} (base extra : AttributeTable) :
    name ∈ (base.merge extra).namesFor tag ↔
      name ∈ base.namesFor tag ∨ ∃ names, (tag, names) ∈ extra ∧ name ∈ names := by
  induction extra generalizing base with
  | nil => simp [merge]
  | cons entry extra ih =>
    obtain ⟨key, names⟩ := entry
    have next : base.merge ((key, names) :: extra) = (base.addEntry key names).merge extra := rfl
    rw [next, ih, namesFor_addEntry]
    by_cases same : tag = key
    · subst same
      rw [if_pos rfl, mem_addNames, or_assoc]
      simp [or_and_right, exists_or]
    · rw [if_neg same]
      simp [same]

end AttributeTable

/-! ## Policies -/

namespace Policy

/-- Whether an option adds names to those of another one. -/
def isAddition (key : Text) : Bool := key == "add_tags".toList || key == "add_attributes".toList

/-- The options without what they add. -/
def withoutAdditions (options : Entries) : Entries :=
  options.filter fun (key, _) => !isAddition key

/-- The policy with elements and attributes put on top of its own. -/
def adding (plain : Policy) (tags : List Text) (attributes : AttributeTable) : Policy :=
  { plain with
    tags := addNames plain.tags tags
    attributes := plain.attributes.merge attributes }

/-- A policy allows what another one allows and the names that are added to it, and is the same in
all else. -/
structure AddsTo (plain : Policy) (tags : List Text) (attributes : AttributeTable)
    (policy : Policy) : Prop where
  /-- The elements that are kept. -/
  tags : ∀ tag, tag ∈ policy.tags ↔ tag ∈ plain.tags ∨ tag ∈ tags
  /-- The attributes that are kept: the added ones of the element or of every element. -/
  attributes : ∀ tag name, policy.allowsAttribute tag name = true ↔
    plain.allowsAttribute tag name = true ∨
      ∃ entry ∈ attributes, (entry.1 = tag ∨ entry.1 = "*".toList) ∧ name ∈ entry.2
  /-- The schemes that URLs may have. -/
  protocols : policy.protocols = plain.protocols
  /-- The properties that styles may set. -/
  cssProperties : policy.cssProperties = plain.cssProperties
  /-- What happens to tags of other elements. -/
  strip : policy.strip = plain.strip
  /-- What happens to comments. -/
  stripComments : policy.stripComments = plain.stripComments

/-- An attribute may stand on an element exactly if it is listed for it or for every element. -/
theorem allowsAttribute_iff (policy : Policy) (tag name : Text) :
    policy.allowsAttribute tag name = true ↔
      name ∈ policy.attributes.namesFor tag ∨ name ∈ policy.attributes.namesFor "*" := by
  rw [allowsAttribute, Bool.or_eq_true, List.contains_iff_mem, List.contains_iff_mem]
  rfl

/-- A policy with additions allows them on top, and nothing else. -/
theorem addsTo_adding (plain : Policy) (tags : List Text) (attributes : AttributeTable) :
    plain.AddsTo tags attributes (plain.adding tags attributes) where
  tags _ := mem_addNames
  attributes tag name := by
    rw [allowsAttribute_iff, allowsAttribute_iff, adding, AttributeTable.mem_namesFor_merge,
      AttributeTable.mem_namesFor_merge]
    constructor
    · rintro ((old | ⟨names, member, listed⟩) | (old | ⟨names, member, listed⟩))
      · exact .inl (.inl old)
      · exact .inr ⟨_, member, .inl rfl, listed⟩
      · exact .inl (.inr old)
      · exact .inr ⟨_, member, .inr rfl, listed⟩
    · rintro ((old | old) | ⟨⟨_, names⟩, member, rfl | rfl, listed⟩)
      · exact .inl (.inl old)
      · exact .inr (.inl old)
      · exact .inl (.inr ⟨names, member, listed⟩)
      · exact .inr (.inr ⟨names, member, listed⟩)
  protocols := rfl
  cssProperties := rfl
  strip := rfl
  stripComments := rfl

/-- An option is there without the additions as well unless it is one of them. -/
theorem get?_withoutAdditions (options : Entries) (key : Text) :
    (withoutAdditions options).get? key = if isAddition key then none else options.get? key := by
  unfold withoutAdditions Entries.get?
  rw [Entries.lookup_filter_fst fun key => !isAddition key]
  cases isAddition key <;> rfl

/-- An option that is none of the additions is read without them as it is with them. -/
theorem readOption_withoutAdditions {α : Type} (options : Entries) (key : Text)
    (other : isAddition key = false) (read : Value → Except PolicyError α) (missing : α) :
    readOption (withoutAdditions options) key read missing = readOption options key read missing := by
  rw [readOption, get?_withoutAdditions, other]
  rfl

/-- An addition is missing without the additions. -/
theorem readOption_addition {α : Type} (options : Entries) (key : Text)
    (addition : isAddition key = true) (read : Value → Except PolicyError α) (missing : α) :
    readOption (withoutAdditions options) key read missing = .ok missing := by
  rw [readOption, get?_withoutAdditions, addition]
  rfl

/-- A flag is the same without the additions. -/
theorem flagOption_withoutAdditions (options : Entries) (key : Text)
    (other : isAddition key = false) :
    flagOption (withoutAdditions options) key = flagOption options key := by
  rw [flagOption, get?_withoutAdditions, other]
  rfl

/-- Without the additions the elements are those given, or the default ones. -/
theorem allowedTags_withoutAdditions (options : Entries) :
    allowedTags (withoutAdditions options) = readOption options "tags" namesOf defaultTags := by
  rw [allowedTags, readOption_withoutAdditions options "tags" (by decide), addedTags,
    readOption_addition options "add_tags" (by decide)]
  exact bind_pure _

/-- Without the additions the attributes are those given, or the default ones. -/
theorem allowedAttributes_withoutAdditions (options : Entries) :
    allowedAttributes (withoutAdditions options) =
      readOption options "attributes" tableOf defaultAttributes := by
  rw [allowedAttributes, readOption_withoutAdditions options "attributes" (by decide),
    addedAttributes, readOption_addition options "add_attributes" (by decide)]
  exact bind_pure _

/-- **Options give a policy exactly if they do so without the additions and the additions can be
read; the policy is then the one without them, with the names put on top.** -/
theorem ofOptions_eq_ok_iff (options : Entries) (policy : Policy) :
    ofOptions options = .ok policy ↔ ∃ plain tags attributes,
      ofOptions (withoutAdditions options) = .ok plain ∧ addedTags options = .ok tags ∧
        addedAttributes options = .ok attributes ∧ policy = plain.adding tags attributes := by
  unfold ofOptions
  rw [allowedTags_withoutAdditions, allowedAttributes_withoutAdditions,
    readOption_withoutAdditions options "css_properties" (by decide),
    readOption_withoutAdditions options "protocols" (by decide),
    flagOption_withoutAdditions options "strip" (by decide),
    flagOption_withoutAdditions options "strip_comments" (by decide)]
  simp only [allowedTags, allowedAttributes, bind_eq_ok, pure, Except.pure,
    Except.ok.injEq]
  constructor
  · rintro ⟨_, ⟨tags, tagsRead, addedTags, addedTagsRead, rfl⟩, _, ⟨attributes, attributesRead,
      addedAttributes, addedAttributesRead, rfl⟩, css, cssRead, protocols, protocolsRead, rfl⟩
    exact ⟨_, addedTags, addedAttributes, ⟨tags, tagsRead, attributes, attributesRead, css, cssRead,
      protocols, protocolsRead, rfl⟩, addedTagsRead, addedAttributesRead, rfl⟩
  · rintro ⟨_, addedTags, addedAttributes, ⟨tags, tagsRead, attributes, attributesRead, css, cssRead,
      protocols, protocolsRead, rfl⟩, addedTagsRead, addedAttributesRead, rfl⟩
    exact ⟨_, ⟨tags, tagsRead, addedTags, addedTagsRead, rfl⟩, _, ⟨attributes, attributesRead,
      addedAttributes, addedAttributesRead, rfl⟩, css, cssRead, protocols, protocolsRead, rfl⟩

end Policy

end MarkdownSite.Sanitizer
