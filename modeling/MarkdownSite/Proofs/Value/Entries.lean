import MarkdownSite.Value.Basic

/-!
# Entries of mappings

A value that is put under a key is found there, and what stands under other keys is found as before.
-/

namespace MarkdownSite.Entries

/-- What is found under a key stands there. -/
theorem mem_of_lookup {α β : Type} [BEq α] [LawfulBEq α] {entries : List (α × β)} {key : α}
    {value : β} (found : entries.lookup key = some value) : (key, value) ∈ entries := by
  obtain ⟨before, after, split, -⟩ := List.lookup_eq_some_iff.mp found
  rw [split]
  exact List.mem_append_right before List.mem_cons_self

/-- What stands under a key in entries that change but keep their keys is what stood there,
changed. -/
theorem lookup_map {α β : Type} {f : Text × α → Text × β} (keeps : ∀ entry, (f entry).1 = entry.1)
    (entries : List (Text × α)) (key : Text) :
    (entries.map f).lookup key = (entries.lookup key).map fun v => (f (key, v)).2 := by
  induction entries with
  | nil => rfl
  | cons entry entries ih =>
    obtain ⟨k, v⟩ := entry
    rw [List.map_cons, List.lookup_cons, List.lookup_cons, ih, keeps]
    by_cases same : key = k
    · simp [same]
    · simp [beq_false_of_ne same]

/-- What stands under a key in the entries whose keys satisfy `p` is what stands there at all, if the
key does. -/
theorem lookup_filter_fst {α : Type} (p : Text → Bool) (entries : List (Text × α)) (key : Text) :
    (entries.filter fun (k, _) => p k).lookup key = if p key then entries.lookup key else none := by
  induction entries with
  | nil => exact (ite_self none).symm
  | cons entry entries ih =>
    obtain ⟨k, v⟩ := entry
    rw [List.filter_cons, List.lookup_cons]
    by_cases same : key = k
    · subst same
      by_cases kept : p key = true
      · simp [kept]
      · simp [kept, ih]
    · rw [beq_false_of_ne same, ← ih]
      by_cases kept : p k = true
      · simp [kept, List.lookup_cons, beq_false_of_ne same]
      · simp [kept]

/-- What stands under another key is found as before. -/
theorem get?_insert_of_ne {key other : Text} (differ : other ≠ key) (value : Value)
    (entries : Entries) : (entries.insert key value).get? other = entries.get? other := by
  unfold insert get?
  split
  · rw [lookup_map fun entry => by dsimp only; split <;> simp_all]
    simp [differ]
  · rw [List.lookup_append]
    simp [List.lookup_cons, beq_false_of_ne differ]

/-- A value is put under a key behind an entry with another key. -/
theorem insert_cons_of_ne {k key : Text} (differ : k ≠ key) (v value : Value) (entries : Entries) :
    insert ((k, v) :: entries) key value = (k, v) :: insert entries key value := by
  unfold insert
  simp only [List.any_cons, beq_false_of_ne differ, Bool.false_or, List.map_cons,
    Bool.false_eq_true, ↓reduceIte, List.cons_append]
  split <;> rfl

/-- A value is found under the key that it is put under. -/
theorem get?_insert_self (entries : Entries) (key : Text) (value : Value) :
    (entries.insert key value).get? key = some value := by
  induction entries with
  | nil => simp [insert, get?]
  | cons entry entries ih =>
    obtain ⟨k, v⟩ := entry
    by_cases same : k = key
    · simp [insert, get?, same]
    · rw [insert_cons_of_ne same, get?, List.lookup_cons, beq_false_of_ne (Ne.symm same)]
      exact ih

/-- The keys after a value is put under one do not depend on the value. -/
theorem map_fst_insert (entries : Entries) (key : Text) (first second : Value) :
    (entries.insert key first).map Prod.fst = (entries.insert key second).map Prod.fst := by
  unfold insert
  split
  · simp only [List.map_map]
    refine List.map_congr_left fun entry _ => ?_
    simp only [Function.comp]
    split <;> rfl
  · simp

/-- What stands in entries after a value is put under a key is this value or stood there before. -/
theorem eq_or_mem_of_mem_insert {entries : Entries} {key : Text} {value : Value}
    {entry : Text × Value} (member : entry ∈ entries.insert key value) :
    entry = (key, value) ∨ entry ∈ entries := by
  unfold insert at member
  split at member
  · obtain ⟨⟨k, v⟩, before, same⟩ := List.mem_map.mp member
    dsimp only at same
    split at same
    · rename_i here
      rw [← same, beq_iff_eq.mp here]
      exact .inl rfl
    · rw [← same]
      exact .inr before
  · rcases List.mem_append.mp member with before | last
    · exact .inr before
    · exact .inl (List.mem_singleton.mp last)

end MarkdownSite.Entries
