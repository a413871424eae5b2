import MarkdownSite.Sanitizer.Policy

/-!
# Policies in memory

Tables of attributes are shared: the default one, and those that options hand over, are read by
every policy that is made from them. Here they lie in a memory of lists and tables, where a list is
lengthened in place, and a policy is made step by step from what lies there.
-/

namespace MarkdownSite.Sanitizer

/-- Where a list or a table lies in memory. -/
abbrev Address := Nat

/-- The lists of names and the tables that there are. A table has each element once, and each of its
lists is there. -/
structure Memory where
  /-- The lists of names. -/
  lists : List (List Text)
  /-- The tables: an element, and where the list of its attributes lies. -/
  tables : List (List (Text × Address))
  /-- Each element is once in a table. -/
  distinct : ∀ entries ∈ tables, (entries.map Prod.fst).Nodup
  /-- The lists of the tables are there. -/
  placed : ∀ entries ∈ tables, ∀ entry ∈ entries, entry.2 < lists.length

/-- Entries with an element put in: in place if it is there, else at the end. -/
def putEntry (tag : Text) (list : Address) (entries : List (Text × Address)) :
    List (Text × Address) :=
  if entries.any fun (t, _) => t == tag then
    entries.map fun (t, other) => (t, if t == tag then list else other)
  else entries ++ [(tag, list)]

/-- An element that is put in is there once. -/
theorem putEntry_nodup {entries : List (Text × Address)} (distinct : (entries.map Prod.fst).Nodup)
    (tag : Text) (list : Address) : ((putEntry tag list entries).map Prod.fst).Nodup := by
  unfold putEntry
  split
  · simpa [Function.comp_def] using distinct
  · next absent =>
    rw [List.map_append, List.nodup_append]
    refine ⟨distinct, by simp, fun t member other new equal => absent ?_⟩
    obtain ⟨entry, present, rfl⟩ := List.mem_map.mp member
    have last : other = tag := by simpa using new
    exact List.any_eq_true.mpr ⟨entry, present, beq_iff_eq.mpr (equal.trans last)⟩

/-- An entry after an element is put in is an old one or the new one. -/
theorem mem_putEntry {entries : List (Text × Address)} {tag : Text} {list : Address}
    {entry : Text × Address} (member : entry ∈ putEntry tag list entries) :
    entry.2 = list ∨ entry ∈ entries := by
  unfold putEntry at member
  split at member
  · obtain ⟨old, present, rfl⟩ := List.mem_map.mp member
    by_cases same : (old.1 == tag) = true
    · exact .inl (if_pos same)
    · exact .inr (by simpa [same] using present)
  · rcases List.mem_append.mp member with old | new
    · exact .inr old
    · exact .inl (congrArg Prod.snd (List.mem_singleton.mp new))

namespace Memory

/-- The names of a list. -/
def names (m : Memory) (list : Address) : List Text := (m.lists[list]?).getD []

/-- The elements of a table and where their lists lie. -/
def entries (m : Memory) (table : Address) : List (Text × Address) := (m.tables[table]?).getD []

/-- The table of attributes that lies at an address. -/
def table (m : Memory) (address : Address) : AttributeTable :=
  (m.entries address).map fun (tag, list) => (tag, m.names list)

/-- A new list. -/
def newList (m : Memory) (names : List Text) : Address × Memory :=
  (m.lists.length,
    { m with
      lists := m.lists ++ [names]
      placed := fun entries member entry present => by
        rw [List.length_append]
        exact Nat.lt_add_right _ (m.placed entries member entry present) })

/-- The memory with other names in a list. -/
def setNames (m : Memory) (list : Address) (names : List Text) : Memory :=
  { m with
    lists := m.lists.set list names
    placed := by rw [List.length_set]; exact m.placed }

/-- A new table without elements. -/
def newTable (m : Memory) : Address × Memory :=
  (m.tables.length,
    { m with
      tables := m.tables ++ [[]]
      distinct := List.forall_mem_append.mpr ⟨m.distinct, by simp⟩
      placed := List.forall_mem_append.mpr ⟨m.placed, by simp⟩ })

/-- The memory with a new list under an element of a table. -/
def put (m : Memory) (table : Address) (tag : Text) (names : List Text) : Memory where
  lists := m.lists ++ [names]
  tables := m.tables.modify table (putEntry tag m.lists.length)
  distinct entries member := by
    obtain ⟨i, found⟩ := List.mem_iff_getElem?.mp member
    rw [List.getElem?_modify] at found
    obtain ⟨old, present, rfl⟩ := Option.map_eq_some_iff.mp found
    have before := m.distinct old (List.mem_of_getElem? present)
    split
    · exact putEntry_nodup before tag _
    · exact before
  placed entries member entry present := by
    obtain ⟨i, found⟩ := List.mem_iff_getElem?.mp member
    rw [List.getElem?_modify] at found
    obtain ⟨old, there, rfl⟩ := Option.map_eq_some_iff.mp found
    have before := m.placed old (List.mem_of_getElem? there) entry
    rw [List.length_append, List.length_singleton]
    split at present
    · rcases mem_putEntry present with new | kept
      · rw [new]
        exact Nat.lt_succ_self _
      · exact Nat.lt_add_right _ (before kept)
    · exact Nat.lt_add_right _ (before present)

/-- Puts the names of one list behind those of another, from a place on. Whether a name is missing
is looked up in the list as it stands when its turn comes. -/
def extendFrom (m : Memory) (target source : Address) (i : Nat) : Memory :=
  match turn : (m.names source)[i]? with
  | none => m
  | some name =>
    if (m.names target).contains name then m.extendFrom target source (i + 1)
    else (m.setNames target (m.names target ++ [name])).extendFrom target source (i + 1)
termination_by (m.names source).length - i
decreasing_by
  · have inside := (List.getElem?_eq_some_iff.mp turn).1
    omega
  · next missing =>
    have inside := (List.getElem?_eq_some_iff.mp turn).1
    -- a list has all of its own names, so it is another list that grows
    have differ : target ≠ source := by
      rintro rfl
      exact missing (List.contains_iff_mem.mpr (List.mem_of_getElem? turn))
    have kept : (m.setNames target (m.names target ++ [name])).names source = m.names source := by
      simp [names, setNames, differ]
    rw [kept]
    omega

/-- The memory with a new list for each entry of a table of attributes put into a table. -/
def putAll (m : Memory) (table : Address) (attributes : AttributeTable) : Memory :=
  attributes.foldl (fun m (tag, names) => m.put table tag names) m

/-- The memory with the names of a list put behind those that a table has for an element. -/
def addEntry (m : Memory) (table : Address) (tag : Text) (source : Address) : Memory :=
  let m := if ((m.entries table).lookup tag).isSome then m else m.put table tag []
  match (m.entries table).lookup tag with
  | some target => m.extendFrom target source 0
  | none => m

/-- A new table with what one table has and what another one adds. -/
def mergeTables (m : Memory) (base extra : Address) : Address × Memory :=
  let (merged, m) := m.newTable
  let m := m.putAll merged (m.table base)
  (merged, (m.entries extra).foldl (fun m (tag, list) => m.addEntry merged tag list) m)

/-- A new list with the names of one list and those that another one adds. -/
def mergeLists (m : Memory) (base extra : Address) : Address × Memory :=
  let (merged, m) := m.newList (m.names base)
  (merged, m.extendFrom merged extra 0)

/-- A new table with the lists of a table of attributes. -/
def holdTable (m : Memory) (attributes : AttributeTable) : Address × Memory :=
  let (table, m) := m.newTable
  (table, m.putAll table attributes)

end Memory

/-- What is done to a memory on the way to a policy. -/
abbrev Building := ExceptT PolicyError (StateM Memory)

/-- Where the names and the attributes lie that policies have unless options say otherwise. -/
structure Defaults where
  /-- The elements. -/
  tags : Address
  /-- The attributes. -/
  attributes : Address

/-- A policy whose attributes lie in memory. -/
structure HeldPolicy where
  /-- The elements that are kept. -/
  tags : List Text
  /-- Where the attributes lie that are kept. -/
  attributes : Address
  /-- The schemes that URLs may have. -/
  protocols : List Text
  /-- The properties that styles may set. -/
  cssProperties : List Text
  /-- Tags of other elements are removed; else they are shown as text. -/
  strip : Bool
  /-- Comments are removed. -/
  stripComments : Bool

/-- The policy as the memory has it. -/
def HeldPolicy.policy (m : Memory) (held : HeldPolicy) : Policy where
  tags := held.tags
  attributes := m.table held.attributes
  protocols := held.protocols
  cssProperties := held.cssProperties
  strip := held.strip
  stripComments := held.stripComments

/-- Where what an option gives lies once it is put into memory, or where the value lies that stands
for a missing option. -/
def holdOption {α : Type} (options : Entries) (key : Text) (read : Value → Except PolicyError α)
    (hold : Memory → α → Address × Memory) (other : Address) : Building Address :=
  match options.get? key with
  | some v => do
    let given ← (read v : Except PolicyError α)
    modifyGet fun m => hold m given
  | none => return other

/-- The elements that options allow, in a new list. -/
def holdTags (defaults : Defaults) (options : Entries) : Building Address := do
  let given ← holdOption options "tags" namesOf Memory.newList defaults.tags
  let added ← (addedTags options : Except PolicyError (List Text))
  let added ← modifyGet fun m => m.newList added
  modifyGet fun m => m.mergeLists given added

/-- The attributes that options allow, in a new table. -/
def holdAttributes (defaults : Defaults) (options : Entries) : Building Address := do
  let given ← holdOption options "attributes" tableOf Memory.holdTable defaults.attributes
  let added ← (addedAttributes options : Except PolicyError AttributeTable)
  let added ← modifyGet fun m => m.holdTable added
  modifyGet fun m => m.mergeTables given added

/-- The policy that options give, made from what lies in memory. -/
def Policy.build (defaults : Defaults) (options : Entries) : Building HeldPolicy := do
  let tags ← holdTags defaults options
  let attributes ← holdAttributes defaults options
  let cssProperties ← (readOption options "css_properties" namesOf defaultCssProperties :
    Except PolicyError (List Text))
  let protocols ← (readOption options "protocols" namesOf defaultProtocols :
    Except PolicyError (List Text))
  return {
    tags := (← get).names tags
    attributes
    protocols
    cssProperties
    strip := flagOption options "strip"
    stripComments := flagOption options "strip_comments" }

/-- The policies that several options give, one made after the other. -/
def Policy.buildAll (defaults : Defaults) :
    List Entries → StateM Memory (List (Except PolicyError HeldPolicy))
  | [] => return []
  | options :: rest => do
    let first ← (build defaults options).run
    let others ← buildAll defaults rest
    return first :: others

namespace Memory

/-- The memory in which nothing lies. -/
def empty : Memory := { lists := [], tables := [], distinct := nofun, placed := nofun }

/-- The memory in which the default names and attributes lie, and nothing else. -/
def standard : Defaults × Memory :=
  let (tags, m) := empty.newList defaultTags
  let (attributes, m) := m.holdTable defaultAttributes
  ({ tags, attributes }, m)

end Memory

end MarkdownSite.Sanitizer
