import MarkdownSite.Proofs.Sanitizer.Additions
import MarkdownSite.Sanitizer.Memory
import Mathlib.Data.List.Forall2
import Mathlib.Data.List.Nodup

/-!
# What policies leave in memory

A policy is made from new lists and new tables alone: what lay in memory before lies there afterwards
as it did. So the default names and attributes are the same for every policy that is made later, and
each policy is the one that its options give, whatever was made before it.
-/

namespace MarkdownSite.Sanitizer

namespace Memory

variable {m later start : Memory} {table : Address}

/-! ## What is kept -/

/-- All that lies in a memory lies in a later one, where it was and as it was. -/
structure KeptBy (m later : Memory) : Prop where
  /-- The lists. -/
  lists : m.lists <+: later.lists
  /-- The tables. -/
  tables : m.tables <+: later.tables

/-- A memory keeps what it has. -/
theorem KeptBy.refl (m : Memory) : m.KeptBy m := ⟨List.prefix_rfl, List.prefix_rfl⟩

/-- What is kept and then kept again is kept. -/
theorem KeptBy.trans {last : Memory} (first : m.KeptBy later) (second : later.KeptBy last) :
    m.KeptBy last :=
  ⟨first.lists.trans second.lists, first.tables.trans second.tables⟩

/-- A list that is kept is there still. -/
theorem KeptBy.list_lt (kept : m.KeptBy later) {list : Address} (held : list < m.lists.length) :
    list < later.lists.length :=
  Nat.lt_of_lt_of_le held kept.lists.length_le

/-- A table that is kept is there still. -/
theorem KeptBy.table_lt (kept : m.KeptBy later) (held : table < m.tables.length) :
    table < later.tables.length :=
  Nat.lt_of_lt_of_le held kept.tables.length_le

/-- A list that is kept has the same names. -/
theorem KeptBy.names_eq (kept : m.KeptBy later) {list : Address} (held : list < m.lists.length) :
    later.names list = m.names list := by
  rw [names, names, List.prefix_iff_getElem?.mp kept.lists list held, List.getElem?_eq_getElem held]

/-- A table that is kept has the same entries. -/
theorem KeptBy.entries_eq (kept : m.KeptBy later) (held : table < m.tables.length) :
    later.entries table = m.entries table := by
  rw [entries, entries, List.prefix_iff_getElem?.mp kept.tables table held,
    List.getElem?_eq_getElem held]

/-- The entries of a table are those of a table that is there, or there are none. -/
theorem entries_cases (m : Memory) (table : Address) :
    m.entries table ∈ m.tables ∨ m.entries table = [] := by
  unfold entries
  cases found : m.tables[table]? with
  | none => exact .inr rfl
  | some entries => exact .inl (List.mem_of_getElem? found)

/-- The list of an entry is there. -/
theorem lt_of_mem_entries {entry : Text × Address} (member : entry ∈ m.entries table) :
    entry.2 < m.lists.length := by
  rcases m.entries_cases table with there | none
  · exact m.placed _ there entry member
  · rw [none] at member
    nomatch member

/-- A table has each element once. -/
theorem nodup_keys (m : Memory) (table : Address) : ((m.entries table).map Prod.fst).Nodup := by
  rcases m.entries_cases table with there | none
  · exact m.distinct _ there
  · rw [none]
    exact List.nodup_nil

/-- The elements of a table of attributes are those of the entries. -/
theorem map_fst_table (m : Memory) (table : Address) :
    (m.table table).map Prod.fst = (m.entries table).map Prod.fst := by
  rw [Memory.table, List.map_map]
  rfl

/-- What a table has for an element are the names of its list. -/
theorem lookup_table (m : Memory) (table : Address) (tag : Text) :
    (m.table table).lookup tag = ((m.entries table).lookup tag).map m.names :=
  Entries.lookup_map (fun _ => by rfl) _ _

/-- A table of attributes that is kept is the same. -/
theorem KeptBy.table_eq (kept : m.KeptBy later) (held : table < m.tables.length) :
    later.table table = m.table table := by
  rw [Memory.table, Memory.table, kept.entries_eq held]
  refine List.map_congr_left fun entry member => ?_
  obtain ⟨tag, list⟩ := entry
  dsimp only
  rw [kept.names_eq (lt_of_mem_entries member)]

/-- These names lie at an address. -/
def HoldsNames (m : Memory) (list : Address) (names : List Text) : Prop :=
  list < m.lists.length ∧ m.names list = names

/-- This table of attributes lies at an address. -/
def HoldsTable (m : Memory) (address : Address) (attributes : AttributeTable) : Prop :=
  address < m.tables.length ∧ m.table address = attributes

/-- Names that lie in memory lie in a later one. -/
theorem KeptBy.holdsNames (kept : m.KeptBy later) {list : Address} {names : List Text}
    (holds : m.HoldsNames list names) : later.HoldsNames list names :=
  ⟨kept.list_lt holds.1, (kept.names_eq holds.1).trans holds.2⟩

/-- A table that lies in memory lies in a later one. -/
theorem KeptBy.holdsTable (kept : m.KeptBy later) {address : Address} {attributes : AttributeTable}
    (holds : m.HoldsTable address attributes) : later.HoldsTable address attributes :=
  ⟨kept.table_lt holds.1, (kept.table_eq holds.1).trans holds.2⟩

/-- A list whose end changes begins as before. -/
theorem prefix_modify {α : Type} {first second : List α} (begins : first <+: second) {i : Nat}
    (behind : first.length ≤ i) (f : α → α) : first <+: second.modify i f := by
  rw [List.prefix_iff_getElem?] at begins ⊢
  intro j inside
  have differ : i ≠ j := by omega
  simp [begins j inside, differ]

/-! ## Lists -/

/-- A new list has its names, and what there was stays. -/
theorem newList_spec (m : Memory) (names : List Text) :
    m.KeptBy (m.newList names).2 ∧ (m.newList names).2.HoldsNames (m.newList names).1 names := by
  refine ⟨⟨List.prefix_append _ _, List.prefix_rfl⟩, ?_, ?_⟩
  · simp [newList]
  · simp [newList, Memory.names]

/-- Setting the names of a list to what they are changes nothing. -/
theorem setNames_self (m : Memory) (list : Address) : m.setNames list (m.names list) = m := by
  have same : m.lists.set list (m.names list) = m.lists := by
    refine List.ext_getElem? fun i => ?_
    rw [List.getElem?_set]
    split
    · next here =>
      subst here
      split
      · next inside => simp [names, inside]
      · next outside => simp [Nat.not_lt.mp outside]
    · rfl
  unfold setNames
  congr

/-- Names that are set twice are those set last. -/
theorem setNames_setNames (m : Memory) (list : Address) (first second : List Text) :
    (m.setNames list first).setNames list second = m.setNames list second := by
  simp [setNames, List.set_set]

/-- A list whose names are set has them. -/
theorem names_setNames_self {list : Address} (held : list < m.lists.length) (names : List Text) :
    (m.setNames list names).names list = names := by
  simp [setNames, Memory.names, held]

/-- The names of other lists stay. -/
theorem names_setNames_of_ne {list other : Address} (differ : list ≠ other) (names : List Text) :
    (m.setNames list names).names other = m.names other := by
  simp [setNames, Memory.names, differ]

/-- Extending one list from another one puts the rest of its names behind those that are there, each
once and only if it is missing. -/
theorem extendFrom_eq {target source : Address} (differ : target ≠ source)
    (held : target < m.lists.length) (i : Nat) :
    m.extendFrom target source i =
      m.setNames target (addNames (m.names target) ((m.names source).drop i)) := by
  -- the list grows while names are looked up in it, so the memory goes along with the induction
  fun_induction Memory.extendFrom m target source i with
  | case1 m i turn =>
    rw [List.drop_eq_nil_of_le (List.getElem?_eq_none_iff.mp turn)]
    exact (m.setNames_self target).symm
  | case2 m i name turn known ih =>
    obtain ⟨inside, here⟩ := List.getElem?_eq_some_iff.mp turn
    rw [ih held, List.drop_eq_getElem_cons inside, here]
    rw [addNames, addNames, List.foldl_cons, if_pos known]
  | case3 m i name turn missing ih =>
    obtain ⟨inside, here⟩ := List.getElem?_eq_some_iff.mp turn
    rw [ih (by simpa [setNames] using held), setNames_setNames, names_setNames_self held,
      names_setNames_of_ne differ, List.drop_eq_getElem_cons inside, here]
    rw [addNames, addNames, List.foldl_cons, if_neg missing]

/-- **Two lists are merged in a new one, and what there was stays.** -/
theorem mergeLists_spec (m : Memory) (base : Address) {extra : Address}
    (extraHeld : extra < m.lists.length) :
    m.KeptBy (m.mergeLists base extra).2 ∧
      (m.mergeLists base extra).2.HoldsNames (m.mergeLists base extra).1
        (addNames (m.names base) (m.names extra)) := by
  obtain ⟨kept, held, own⟩ := m.newList_spec (m.names base)
  have differ : (m.newList (m.names base)).1 ≠ extra := Nat.ne_of_gt extraHeld
  have extended := extendFrom_eq differ held 0
  rw [own, kept.names_eq extraHeld, List.drop_zero] at extended
  have merged : m.mergeLists base extra = ((m.newList (m.names base)).1,
      (m.newList (m.names base)).2.setNames (m.newList (m.names base)).1
        (addNames (m.names base) (m.names extra))) := Prod.ext rfl extended
  rw [merged]
  refine ⟨⟨?_, kept.tables⟩, ?_, names_setNames_self held _⟩
  · simp [setNames, newList]
  · simpa [setNames] using held

/-! ## A table in the making -/

/-- A new table is made next to what a memory has: its lists are new, and no two elements share
one. -/
structure Making (start : Memory) (table : Address) (m : Memory) : Prop where
  /-- What there was is there. -/
  kept : start.KeptBy m
  /-- The table is a new one. -/
  isNew : start.tables.length ≤ table
  /-- The table is there. -/
  held : table < m.tables.length
  /-- The lists of the table are new ones. -/
  own : ∀ entry ∈ m.entries table, start.lists.length ≤ entry.2
  /-- No two elements share a list. -/
  apart : ((m.entries table).map Prod.snd).Nodup

/-- A new table has no elements. -/
theorem entries_newTable (m : Memory) : m.newTable.2.entries m.newTable.1 = [] := by
  simp [newTable, entries]

/-- A new table has no attributes. -/
theorem table_newTable (m : Memory) : m.newTable.2.table m.newTable.1 = [] := by
  rw [Memory.table, entries_newTable]
  rfl

/-- A new table is in the making. -/
theorem making_newTable (m : Memory) : m.Making m.newTable.1 m.newTable.2 where
  kept := ⟨List.prefix_rfl, List.prefix_append _ _⟩
  isNew := Nat.le_refl _
  held := by simp [newTable]
  own := by simp [entries_newTable]
  apart := by simp [entries_newTable]

/-- A new element stands at the end of its table. -/
theorem entries_put (held : table < m.tables.length) {tag : Text}
    (absent : tag ∉ (m.entries table).map Prod.fst) (names : List Text) :
    (m.put table tag names).entries table = m.entries table ++ [(tag, m.lists.length)] := by
  have put : (m.put table tag names).entries table =
      putEntry tag m.lists.length (m.entries table) := by
    simp [Memory.put, entries, held]
  rw [put, putEntry, if_neg]
  intro known
  obtain ⟨entry, present, same⟩ := List.any_eq_true.mp known
  exact absent (List.mem_map.mpr ⟨entry, present, beq_iff_eq.mp same⟩)

/-- A table with a new element is in the making. -/
theorem Making.put (making : start.Making table m) {tag : Text}
    (absent : tag ∉ (m.entries table).map Prod.fst) (names : List Text) :
    start.Making table (m.put table tag names) where
  kept := ⟨making.kept.lists.trans (List.prefix_append _ _),
    prefix_modify making.kept.tables making.isNew _⟩
  isNew := making.isNew
  held := by simpa [Memory.put] using making.held
  own := by
    rw [entries_put making.held absent]
    refine List.forall_mem_append.mpr ⟨making.own, ?_⟩
    simpa using making.kept.lists.length_le
  apart := by
    rw [entries_put making.held absent, List.map_append, List.map_singleton,
      ← List.concat_eq_append]
    refine List.Nodup.concat (fun member => ?_) making.apart
    obtain ⟨entry, present, same⟩ := List.mem_map.mp member
    exact absurd same (Nat.ne_of_lt (lt_of_mem_entries present))

/-- A new element has the names that are put under it. -/
theorem Making.table_put (making : start.Making table m) {tag : Text}
    (absent : tag ∉ (m.entries table).map Prod.fst) (names : List Text) :
    (m.put table tag names).table table = m.table table ++ [(tag, names)] := by
  have old (list : Address) (held : list < m.lists.length) :
      (m.put table tag names).names list = m.names list := by
    simp [Memory.put, Memory.names, List.getElem?_append_left held]
  have new : (m.put table tag names).names m.lists.length = names := by
    simp [Memory.put, Memory.names]
  rw [Memory.table, entries_put making.held absent, List.map_append, List.map_singleton]
  dsimp only
  rw [new, Memory.table]
  congr 1
  exact List.map_congr_left fun entry member => by rw [old _ (lt_of_mem_entries member)]

/-- The lists of a table in the making are no list that was there before. -/
theorem Making.setNames (making : start.Making table m) {list : Address}
    (own : start.lists.length ≤ list) (names : List Text) :
    start.Making table (m.setNames list names) where
  kept := by
    refine ⟨?_, making.kept.tables⟩
    have same : (m.setNames list names).lists = m.lists.modify list fun _ => names :=
      List.set_eq_modify ..
    rw [same]
    exact prefix_modify making.kept.lists own _
  isNew := making.isNew
  held := making.held
  own := making.own
  apart := making.apart

/-- Setting the names of one list of a table changes those of its own element and of no other. -/
theorem Making.table_setNames (making : start.Making table m) {tag : Text} {list : Address}
    (member : (tag, list) ∈ m.entries table) (f : List Text → List Text) :
    (m.setNames list (f (m.names list))).table table =
      (m.table table).map fun (t, names) => (t, if t == tag then f names else names) := by
  rw [Memory.table, Memory.table, List.map_map]
  refine List.map_congr_left fun entry present => ?_
  obtain ⟨t, other⟩ := entry
  dsimp only [Function.comp]
  -- each element is once in the table, and no other one has its list
  by_cases same : t = tag
  · have here : (t, other) = (tag, list) :=
      List.inj_on_of_nodup_map (m.nodup_keys table) present member same
    obtain ⟨rfl, rfl⟩ := Prod.mk.injEq .. ▸ here
    rw [names_setNames_self (lt_of_mem_entries member), if_pos (beq_self_eq_true t)]
  · have differ : list ≠ other := fun shared => same
      (congrArg Prod.fst (List.inj_on_of_nodup_map making.apart present member shared.symm))
    rw [names_setNames_of_ne differ, beq_false_of_ne same]
    rfl

/-- Extending a list of a table from one that was there before adds names to its own element. -/
theorem Making.extendFrom (making : start.Making table m) {tag : Text} {target source : Address}
    (member : (tag, target) ∈ m.entries table) (held : source < start.lists.length) :
    start.Making table (m.extendFrom target source 0) ∧
      (m.extendFrom target source 0).table table = (m.table table).map fun (t, names) =>
        (t, if t == tag then addNames names (start.names source) else names) := by
  have own := making.own _ member
  have differ : target ≠ source := by
    rintro rfl
    exact absurd held (Nat.not_lt.mpr own)
  rw [extendFrom_eq differ (lt_of_mem_entries member), List.drop_zero, making.kept.names_eq held]
  exact ⟨making.setNames own _,
    making.table_setNames member fun names => addNames names (start.names source)⟩

/-- An entry that is added in memory is added to the table of attributes. -/
theorem Making.addEntry (making : start.Making table m) (tag : Text) {source : Address}
    (held : source < start.lists.length) :
    start.Making table (m.addEntry table tag source) ∧
      (m.addEntry table tag source).table table =
        (m.table table).addEntry tag (start.names source) := by
  unfold Memory.addEntry AttributeTable.addEntry
  rw [lookup_table, Option.isSome_map]
  cases found : (m.entries table).lookup tag with
  | some target =>
    simp only [Option.isSome_some, if_true, found]
    exact making.extendFrom (Entries.mem_of_lookup found) held
  | none =>
    have absent : tag ∉ (m.entries table).map Prod.fst := by
      intro member
      obtain ⟨entry, present, rfl⟩ := List.mem_map.mp member
      exact absurd (List.lookup_eq_none_iff.mp found entry present) (by simp)
    have entries := entries_put making.held absent []
    have fresh : (tag, m.lists.length) ∈ (m.put table tag []).entries table := by
      rw [entries]
      simp
    have last : ((m.put table tag []).entries table).lookup tag = some m.lists.length := by
      rw [entries, List.lookup_append, found]
      simp
    have others : ((m.table table).map fun (t, names) =>
        (t, if t == tag then addNames names (start.names source) else names)) = m.table table := by
      refine (List.map_congr_left fun entry present => ?_).trans (List.map_id' _)
      have differ : entry.1 ≠ tag := by
        rintro rfl
        exact absent (map_fst_table m table ▸ List.mem_map_of_mem present)
      simp [beq_false_of_ne differ]
    simp only [Option.isSome_none, Bool.false_eq_true, if_false, last]
    obtain ⟨made, table⟩ := (making.put absent []).extendFrom fresh held
    refine ⟨made, table.trans ?_⟩
    rw [making.table_put absent, List.map_append, others]
    simp

/-- New elements that are put into a table stand behind those that it has. -/
theorem Making.putAll (making : start.Making table m) {attributes : AttributeTable}
    (distinct : ((m.table table ++ attributes).map Prod.fst).Nodup) :
    start.Making table (m.putAll table attributes) ∧
      (m.putAll table attributes).table table = m.table table ++ attributes := by
  induction attributes generalizing m with
  | nil => exact ⟨making, (List.append_nil _).symm⟩
  | cons entry attributes ih =>
    have absent : entry.1 ∉ (m.entries table).map Prod.fst := by
      rw [← map_fst_table]
      rw [List.map_append, List.nodup_append] at distinct
      exact fun member => distinct.2.2 _ member _ List.mem_cons_self rfl
    have next : m.putAll table (entry :: attributes) =
        (m.put table entry.1 entry.2).putAll table attributes := rfl
    have put := making.table_put absent entry.2
    have split : m.table table ++ entry :: attributes =
        (m.put table entry.1 entry.2).table table ++ attributes := by
      rw [put, List.append_assoc]
      rfl
    rw [next, split]
    exact ih (making.put absent entry.2) (split ▸ distinct)

/-- Entries that are added in memory one after another are merged into the table of attributes. -/
theorem Making.addAll (making : start.Making table m) {extra : List (Text × Address)}
    (held : ∀ entry ∈ extra, entry.2 < start.lists.length) :
    start.Making table (extra.foldl (fun m (tag, list) => m.addEntry table tag list) m) ∧
      (extra.foldl (fun m (tag, list) => m.addEntry table tag list) m).table table =
        (m.table table).merge (extra.map fun (tag, list) => (tag, start.names list)) := by
  induction extra generalizing m with
  | nil => exact ⟨making, rfl⟩
  | cons entry extra ih =>
    obtain ⟨first, others⟩ := List.forall_mem_cons.mp held
    obtain ⟨made, added⟩ := making.addEntry entry.1 first
    obtain ⟨last, merged⟩ := ih made others
    refine ⟨last, merged.trans ?_⟩
    rw [added]
    rfl

/-- **A table of attributes that is put into memory lies there, and what there was stays.** -/
theorem holdTable_spec (m : Memory) {attributes : AttributeTable}
    (distinct : (attributes.map Prod.fst).Nodup) :
    m.KeptBy (m.holdTable attributes).2 ∧
      (m.holdTable attributes).2.HoldsTable (m.holdTable attributes).1 attributes := by
  have empty := m.table_newTable
  have fresh : ((m.newTable.2.table m.newTable.1 ++ attributes).map Prod.fst).Nodup := by
    rwa [empty, List.nil_append]
  obtain ⟨made, put⟩ := m.making_newTable.putAll fresh
  rw [empty, List.nil_append] at put
  exact ⟨made.kept, made.held, put⟩

/-- **Two tables are merged in a new one with lists of its own, and what there was stays.** -/
theorem mergeTables_spec (m : Memory) {base extra : Address} (baseHeld : base < m.tables.length)
    (extraHeld : extra < m.tables.length) :
    m.Making (m.mergeTables base extra).1 (m.mergeTables base extra).2 ∧
      (m.mergeTables base extra).2.table (m.mergeTables base extra).1 =
        (m.table base).merge (m.table extra) := by
  have started := m.making_newTable
  have empty := m.table_newTable
  have distinct : ((m.newTable.2.table m.newTable.1 ++ m.newTable.2.table base).map
      Prod.fst).Nodup := by
    rw [empty, List.nil_append, map_fst_table]
    exact nodup_keys _ base
  obtain ⟨copied, copy⟩ := started.putAll distinct
  rw [empty, List.nil_append] at copy
  have entries := copied.kept.entries_eq extraHeld
  have held : ∀ entry ∈ (m.newTable.2.putAll m.newTable.1 (m.newTable.2.table base)).entries extra,
      entry.2 < m.lists.length := by
    rw [entries]
    exact fun entry => lt_of_mem_entries
  obtain ⟨made, merged⟩ := copied.addAll held
  refine ⟨made, merged.trans ?_⟩
  rw [copy, entries, started.kept.table_eq baseHeld]
  rfl

end Memory

end MarkdownSite.Sanitizer
