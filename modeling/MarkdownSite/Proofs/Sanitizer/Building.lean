import MarkdownSite.Proofs.Sanitizer.Memory

/-!
# Policies that are made in memory

A policy that is made in memory, with the default names and attributes lying there, is the one that
its options give. Making it changes neither the defaults nor anything else that policies made earlier
are read from, so this holds of every policy in a row of them.
-/

namespace MarkdownSite.Sanitizer

variable {α β γ δ : Type} {m : Memory}

/-! ## Building -/

/-- What is built from a memory holds in it what is expected, or fails with the error that is
expected, and what was there stays. -/
structure Yields (m : Memory) (building : Building α) (holds : Memory → α → β → Prop)
    (expected : Except PolicyError β) : Prop where
  /-- What was there stays. -/
  kept : m.KeptBy (building.run.run m).2
  /-- The end of it. -/
  ends : EndAlike (holds (building.run.run m).2) (building.run.run m).1 expected

section Yields

variable {holds : Memory → α → β → Prop} {last : Memory → γ → δ → Prop} {building : Building α}
  {next : α → Building γ}

/-- A computation that gives a value is followed by what comes next. -/
theorem Yields.bind {expected : Except PolicyError β} {others : β → Except PolicyError δ}
    (first : Yields m building holds expected)
    (rest : ∀ a b later, m.KeptBy later → holds later a b →
      Yields later (next a) last (others b)) :
    Yields m (building >>= next) last (expected >>= others) := by
  obtain ⟨kept, ends⟩ := first
  have run : (building >>= next).run.run m =
      (ExceptT.bindCont next (building.run.run m).1).run (building.run.run m).2 := rfl
  generalize building.run.run m = outcome at run kept ends
  obtain ⟨result, later⟩ := outcome
  cases result with
  | ok a =>
    cases expected with
    | ok b =>
      obtain ⟨keptOn, ended⟩ := rest a b later kept ends
      exact ⟨run ▸ kept.trans keptOn, run ▸ ended⟩
    | error e => exact ends.elim
  | error e =>
    cases expected with
    | ok b => exact ends.elim
    | error f => exact ⟨run ▸ kept, run ▸ ends⟩

/-- A step that cannot fail is followed by what comes next. -/
theorem Yields.step {expected : Except PolicyError δ} (step : Memory → α × Memory)
    (kept : m.KeptBy (step m).2) (rest : Yields (step m).2 (next (step m).1) last expected) :
    Yields m (modifyGet step >>= next) last expected :=
  ⟨kept.trans rest.kept, rest.ends⟩

/-- What is read from options is followed by what comes next. -/
theorem Yields.read {others : α → Except PolicyError δ} (read : Except PolicyError α)
    (rest : ∀ a, read = .ok a → Yields m (next a) last (others a)) :
    Yields m (liftM read >>= next) last (read >>= others) := by
  cases read with
  | ok a => exact rest a rfl
  | error e => exact ⟨.refl m, Eq.refl e⟩

/-- Options that give a value yield it where it is put. -/
theorem yields_holdOption {options : Entries} {key : Text} {read : Value → Except PolicyError α}
    {hold : Memory → α → Address × Memory} {missing : α} {other : Address}
    {lies : Memory → Address → α → Prop} (given : ∀ v a, options.get? key = some v →
      read v = .ok a → m.KeptBy (hold m a).2 ∧ lies (hold m a).2 (hold m a).1 a)
    (default : lies m other missing) :
    Yields m (holdOption options key read hold other) lies (readOption options key read missing) := by
  unfold holdOption readOption
  cases found : options.get? key with
  | none => exact ⟨.refl m, default⟩
  | some v =>
    dsimp only
    cases done : read v with
    | error e => exact ⟨.refl m, Eq.refl e⟩
    | ok a =>
      obtain ⟨kept, there⟩ := given v a found done
      exact ⟨kept, there⟩

end Yields

/-! ## Policies -/

/-- The default names and attributes lie in memory. -/
structure Defaults.Held (defaults : Defaults) (m : Memory) : Prop where
  /-- The elements. -/
  tags : m.HoldsNames defaults.tags defaultTags
  /-- The attributes. -/
  attributes : m.HoldsTable defaults.attributes defaultAttributes

/-- Defaults that lie in memory lie in a later one. -/
theorem Defaults.Held.kept {defaults : Defaults} {later : Memory} (held : defaults.Held m)
    (kept : m.KeptBy later) : defaults.Held later :=
  ⟨kept.holdsNames held.tags, kept.holdsTable held.attributes⟩

/-- The keys of a mapping; other values have none. -/
def keysOf : Value → List Text
  | .map entries => entries.map Prod.fst
  | _ => []

/-- The mappings among the values of options have each key once. -/
def EachKeyOnce (options : Entries) : Prop := ∀ entry ∈ options, (keysOf entry.2).Nodup

instance (options : Entries) : Decidable (EachKeyOnce options) :=
  inferInstanceAs (Decidable (∀ entry ∈ options, (keysOf entry.2).Nodup))

/-- A mapping that an option gives has each key once. -/
theorem EachKeyOnce.get? {options : Entries} (once : EachKeyOnce options) {key : Text} {v : Value}
    (found : options.get? key = some v) : (keysOf v).Nodup :=
  once (key, v) (Entries.mem_of_lookup found)

/-- The table that entries give has their keys. -/
theorem map_fst_tableOfEntries {entries : Entries} {table : AttributeTable}
    (read : tableOfEntries entries = .ok table) :
    table.map Prod.fst = entries.map Prod.fst := by
  induction entries generalizing table with
  | nil =>
    cases read
    rfl
  | cons entry entries ih =>
    obtain ⟨tag, v⟩ := entry
    simp only [tableOfEntries, bind_eq_ok, pure, Except.pure, Except.ok.injEq] at read
    obtain ⟨names, -, rest, others, rfl⟩ := read
    rw [List.map_cons, List.map_cons, ih others]

/-- A table that a value gives has each element once if the value has each key once. -/
theorem nodup_tableOf {v : Value} {table : AttributeTable} (once : (keysOf v).Nodup)
    (read : tableOf v = .ok table) : (table.map Prod.fst).Nodup := by
  unfold tableOf at read
  split at read
  · rw [map_fst_tableOfEntries read]
    exact once
  · nomatch read

/-- The attributes that options add have each element once. -/
theorem nodup_addedAttributes {options : Entries} (once : EachKeyOnce options)
    {table : AttributeTable} (read : addedAttributes options = .ok table) :
    (table.map Prod.fst).Nodup := by
  unfold addedAttributes readOption at read
  split at read
  · next v found =>
    dsimp only at read
    split at read
    · exact nodup_tableOf (once.get? found) read
    · cases read
      exact List.nodup_nil
  · cases read
    exact List.nodup_nil

namespace HeldPolicy

/-- The policy whose attributes lie in memory is this one. -/
def Reads (m : Memory) (held : HeldPolicy) (policy : Policy) : Prop :=
  held.attributes < m.tables.length ∧ held.policy m = policy

/-- A policy that is read from memory is read from a later one. -/
theorem Reads.kept {later : Memory} {held : HeldPolicy} {policy : Policy}
    (reads : held.Reads m policy) (kept : m.KeptBy later) : held.Reads later policy := by
  refine ⟨kept.table_lt reads.1, ?_⟩
  rw [← reads.2, HeldPolicy.policy, HeldPolicy.policy, kept.table_eq reads.1]

end HeldPolicy

section Held

variable {defaults : Defaults} (held : defaults.Held m)

include held

/-- The elements that options allow lie in a list. -/
theorem yields_holdTags (options : Entries) :
    Yields m (holdTags defaults options) Memory.HoldsNames (allowedTags options) := by
  have given : Yields m (holdOption options "tags" namesOf Memory.newList defaults.tags)
      Memory.HoldsNames (readOption options "tags" namesOf defaultTags) :=
    yields_holdOption (fun _ names _ _ => m.newList_spec names) held.tags
  refine given.bind fun list names later _ lies => ?_
  refine Yields.read _ fun added _ => ?_
  obtain ⟨addedKept, addedHeld⟩ := later.newList_spec added
  refine Yields.step _ addedKept ?_
  obtain ⟨kept, merged⟩ := Memory.mergeLists_spec _ list addedHeld.1
  rw [(addedKept.holdsNames lies).2, addedHeld.2] at merged
  exact ⟨kept, merged⟩

/-- The attributes that options allow lie in a table. -/
theorem yields_holdAttributes {options : Entries} (once : EachKeyOnce options) :
    Yields m (holdAttributes defaults options) Memory.HoldsTable (allowedAttributes options) := by
  have given : Yields m
      (holdOption options "attributes" tableOf Memory.holdTable defaults.attributes)
      Memory.HoldsTable (readOption options "attributes" tableOf defaultAttributes) := by
    refine yields_holdOption (fun v attributes found read => ?_) held.attributes
    exact m.holdTable_spec (nodup_tableOf (once.get? found) read)
  refine given.bind fun table attributes later _ lies => ?_
  refine Yields.read _ fun added read => ?_
  obtain ⟨addedKept, addedHeld⟩ := later.holdTable_spec (nodup_addedAttributes once read)
  refine Yields.step _ addedKept ?_
  have there := addedKept.holdsTable lies
  obtain ⟨made, merged⟩ := Memory.mergeTables_spec _ there.1 addedHeld.1
  rw [there.2, addedHeld.2] at merged
  exact ⟨made.kept, made.held, merged⟩

/-- **A policy that is made in memory is the one that its options give.** -/
theorem Policy.yields_build {options : Entries} (once : EachKeyOnce options) :
    Yields m (build defaults options) HeldPolicy.Reads (ofOptions options) := by
  refine (yields_holdTags held options).bind fun list tags afterTags keptFirst tagsLie => ?_
  refine (yields_holdAttributes (held.kept keptFirst) once).bind
    fun table attributes later kept attributesLie => ?_
  refine Yields.read _ fun css _ => ?_
  refine Yields.read _ fun protocols _ => ?_
  refine ⟨.refl later, attributesLie.1, ?_⟩
  rw [← (kept.holdsNames tagsLie).2, ← attributesLie.2]
  rfl

/-- **Policies that are made one after another are the ones that their options give, all of them in
the memory at the end.** -/
theorem Policy.buildAll_spec {calls : List Entries} (once : ∀ options ∈ calls, EachKeyOnce options) :
    m.KeptBy ((buildAll defaults calls).run m).2 ∧
      List.Forall₂ (fun result options => EndAlike
        (HeldPolicy.Reads ((buildAll defaults calls).run m).2) result (ofOptions options))
        ((buildAll defaults calls).run m).1 calls := by
  induction calls generalizing m with
  | nil => exact ⟨.refl m, .nil⟩
  | cons options calls ih =>
    obtain ⟨now, others⟩ := List.forall_mem_cons.mp once
    obtain ⟨kept, ends⟩ := yields_build held now
    obtain ⟨keptOn, rest⟩ := ih (held.kept kept) others
    exact ⟨kept.trans keptOn, .cons (ends.imp fun _ _ reads => reads.kept keptOn) rest⟩

end Held

/-- The default names and attributes lie in the memory that holds nothing else. -/
theorem held_standard : Memory.standard.1.Held Memory.standard.2 := by
  have distinct : (defaultAttributes.map Prod.fst).Nodup := by decide
  obtain ⟨-, tags⟩ := Memory.empty.newList_spec defaultTags
  obtain ⟨kept, attributes⟩ := Memory.holdTable_spec _ distinct
  exact ⟨kept.holdsNames tags, attributes⟩

/-- **Merging two tables in memory gives a merged table with lists of its own and leaves both as they
are. Policies that are made one after another are the ones that their options give, and the defaults
are the same for each of them. Options that add names give a policy exactly if they do so without the
additions and the additions can be read, and it allows what is allowed without them and the added
names.** -/
theorem additions_only_add {base extra : Address} (baseHeld : base < m.tables.length)
    (extraHeld : extra < m.tables.length) {defaults : Defaults} (held : defaults.Held m)
    {calls : List Entries} (once : ∀ options ∈ calls, EachKeyOnce options) :
    (∃ merged later, m.mergeTables base extra = (merged, later) ∧
      (m.table base).IsMergeOf (m.table extra) (later.table merged) ∧
        (∀ entry ∈ later.entries merged, m.lists.length ≤ entry.2) ∧ m.KeptBy later ∧
          later.table base = m.table base ∧ later.table extra = m.table extra) ∧
    (∃ results later, (Policy.buildAll defaults calls).run m = (results, later) ∧
      results.map (Except.map (HeldPolicy.policy later)) = calls.map Policy.ofOptions ∧
        m.KeptBy later ∧ defaults.Held later) ∧
    ∀ options policy, Policy.ofOptions options = .ok policy ↔ ∃ plain tags attributes,
      Policy.ofOptions (Policy.withoutAdditions options) = .ok plain ∧
        addedTags options = .ok tags ∧ addedAttributes options = .ok attributes ∧
          policy = plain.adding tags attributes ∧ plain.AddsTo tags attributes policy := by
  refine ⟨?_, ?_, fun options policy => ?_⟩
  · obtain ⟨made, merged⟩ := m.mergeTables_spec baseHeld extraHeld
    refine ⟨(m.mergeTables base extra).1, (m.mergeTables base extra).2, rfl, ?_, made.own,
      made.kept, made.kept.table_eq baseHeld, made.kept.table_eq extraHeld⟩
    rw [merged]
    refine AttributeTable.isMergeOf_merge ?_ ?_
    · exact m.map_fst_table base ▸ m.nodup_keys base
    · exact m.map_fst_table extra ▸ m.nodup_keys extra
  · obtain ⟨kept, ends⟩ := Policy.buildAll_spec held once
    refine ⟨_, _, rfl, ?_, kept, held.kept kept⟩
    rw [← List.forall₂_eq_eq_eq, List.forall₂_map_left_iff, List.forall₂_map_right_iff]
    exact ends.imp fun _ _ alike => (alike.imp fun _ _ reads => reads.2).map_eq
  · rw [Policy.ofOptions_eq_ok_iff]
    constructor
    · rintro ⟨plain, tags, attributes, plainGiven, tagsRead, attributesRead, rfl⟩
      exact ⟨plain, tags, attributes, plainGiven, tagsRead, attributesRead, rfl,
        plain.addsTo_adding tags attributes⟩
    · rintro ⟨plain, tags, attributes, plainGiven, tagsRead, attributesRead, rfl, -⟩
      exact ⟨plain, tags, attributes, plainGiven, tagsRead, attributesRead, rfl⟩

/-- A policy that allows one more element is followed by one that allows one more attribute and not
that element. -/
theorem additions_only_add_in_turn :
    ∃ results later, (Policy.buildAll Memory.standard.1
        [[("add_tags", .list [.text "section"])],
          [("add_attributes", .map [("img", .list [.text "data-src", .text "src"])])]]).run
            Memory.standard.2 = (results, later) ∧
      results.map (Except.map (HeldPolicy.policy later)) =
        [.ok { Policy.standard with tags := defaultTags ++ ["section".toList] },
          .ok { Policy.standard with
            attributes := defaultAttributes.addEntry "img" ["data-src"] }] ∧
      later.table Memory.standard.1.attributes = defaultAttributes := by
  have once : ∀ options ∈ [[("add_tags".toList, Value.list [.text "section"])],
      [("add_attributes".toList, .map [("img", .list [.text "data-src", .text "src"])])]],
      EachKeyOnce options := by
    decide
  have attributesHeld := held_standard.attributes.1
  obtain ⟨-, ⟨results, later, run, policies, -, held⟩, -⟩ :=
    additions_only_add attributesHeld attributesHeld held_standard once
  refine ⟨results, later, run, policies.trans ?_, held.attributes.2⟩
  rfl

end MarkdownSite.Sanitizer
