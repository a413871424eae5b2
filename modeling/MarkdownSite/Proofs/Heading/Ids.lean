import MarkdownSite.Heading.Ids
import MarkdownSite.Proofs.Text.Basic
import Mathlib.Data.List.Nodup
import Mathlib.Data.List.Perm.Subperm

/-!
# The table of heading ids

What a claim gives out is new to the table and stands in it afterwards, and no operation makes the
table forget an id. The number after a taken id is the least free one from the remembered counter
on: among as many numbers as there are ids, and one more, one is free.
-/

namespace MarkdownSite.HeadingIds

/-- An id is given out exactly when it stands among the keys of the table. -/
theorem contains_iff (ids : HeadingIds) (id : Text) :
    ids.contains id = true ↔ id ∈ ids.counters.map Prod.fst := by
  unfold contains counter?
  induction ids.counters with
  | nil => simp
  | cons entry rest ih =>
    obtain ⟨key, count⟩ := entry
    rw [List.lookup_cons, List.map_cons, List.mem_cons]
    by_cases same : id = key
    · simp [same]
    · rw [beq_false_of_ne same, ih]
      simp [same]

/-- Setting the counter of an id records the id and changes no other membership. -/
theorem contains_setCounter (ids : HeadingIds) (id other : Text) (n : Nat) :
    (ids.setCounter id n).contains other = true ↔ other = id ∨ ids.contains other = true := by
  unfold setCounter
  by_cases known : ids.contains id = true
  · rw [if_pos known, contains_iff, List.map_map, List.map_congr_left (g := Prod.fst),
      ← contains_iff]
    · constructor
      · exact .inr
      · rintro (rfl | present)
        · exact known
        · exact present
    · intro entry _
      simp only [Function.comp]
      split <;> rfl
  · rw [if_neg known, contains_iff, contains_iff]
    simp only [List.map_append, List.map_cons, List.map_nil, List.mem_append, List.mem_singleton]
    exact or_comm

/-- Different numbers make different ids of one. -/
theorem numbered_inj {id : Text} {m n : Nat} (same : numbered id m = numbered id n) : m = n :=
  Text.ofNat_injective (List.cons.inj (List.append_cancel_left same)).2

/-- Ids that are all different and all given out are no more than the table has. -/
theorem le_size_of_contains {ids : HeadingIds} {name : Nat → Text}
    (different : Function.Injective name) {count : Nat}
    (taken : ∀ k < count, ids.contains (name k) = true) : count ≤ ids.size := by
  have among : (List.range count).map name ⊆ ids.counters.map Prod.fst := by
    intro given member
    obtain ⟨k, inside, rfl⟩ := List.mem_map.mp member
    exact (ids.contains_iff (name k)).mp (taken k (List.mem_range.mp inside))
  have once : ((List.range count).map name).Nodup := List.nodup_range.map different
  simpa [size] using (List.subperm_of_subset once among).length_le

/-- The search stops between its start and its last try, at the first free number it meets. -/
theorem nextFree_spec (ids : HeadingIds) (id : Text) (n tries : Nat) :
    n ≤ ids.nextFree id n tries ∧ ids.nextFree id n tries ≤ n + tries ∧
      (∀ m, n ≤ m → m < ids.nextFree id n tries → ids.contains (numbered id m) = true) ∧
      (ids.nextFree id n tries < n + tries →
        ids.contains (numbered id (ids.nextFree id n tries)) = false) := by
  induction tries generalizing n with
  | zero =>
    simp only [nextFree]
    refine ⟨Nat.le_refl _, Nat.le_refl _, fun m low high => ?_, fun short => ?_⟩
    · omega
    · omega
  | succ tries ih =>
    by_cases taken : ids.contains (numbered id n) = true
    · obtain ⟨low, high, passed, free⟩ := ih (n + 1)
      simp only [nextFree, taken, ↓reduceIte]
      refine ⟨by omega, by omega, fun m least most => ?_, fun short => free (by omega)⟩
      rcases Nat.eq_or_lt_of_le least with rfl | later
      · exact taken
      · exact passed m later most
    · rw [Bool.not_eq_true] at taken
      have stop : ids.nextFree id n (tries + 1) = n := by simp [nextFree, taken]
      rw [stop]
      exact ⟨Nat.le_refl _, by omega, fun m least most => by omega, fun _ => taken⟩

/-- As many tries as there are ids reach a free number, for the ids passed are all different. -/
theorem contains_nextFree (ids : HeadingIds) (id : Text) (n : Nat) :
    ids.contains (numbered id (ids.nextFree id n ids.size)) = false := by
  obtain ⟨-, high, passed, free⟩ := ids.nextFree_spec id n ids.size
  rcases Nat.eq_or_lt_of_le high with last | early
  · by_contra taken
    rw [Bool.not_eq_false, last] at taken
    have every : ∀ k < ids.size + 1, ids.contains (numbered id (n + k)) = true := by
      intro k inside
      rcases Nat.eq_or_lt_of_le (Nat.le_of_lt_succ inside) with rfl | before
      · exact taken
      · exact passed (n + k) (by omega) (by omega)
    have different : Function.Injective fun k => numbered id (n + k) := fun a b same =>
      Nat.add_left_cancel (numbered_inj same)
    exact Nat.not_succ_le_self ids.size (le_size_of_contains different every)
  · exact free early

/-- A claim gives out an id that the table does not hold. -/
theorem claim_new (ids : HeadingIds) (id : Text) : ids.contains (ids.claim id).1 = false := by
  unfold claim
  cases counted : ids.counter? id with
  | none => simp [contains, counted]
  | some start => exact ids.contains_nextFree id start

/-- A claim records what it gives out and forgets nothing. It may record the id asked for too, which
is there already if it is not given out. -/
theorem contains_claim (ids : HeadingIds) (id other : Text) :
    (ids.claim id).2.contains other = true ↔
      other = (ids.claim id).1 ∨ ids.contains other = true := by
  unfold claim
  cases counted : ids.counter? id with
  | none => exact ids.contains_setCounter id other 1
  | some start =>
    simp only [contains_setCounter]
    have known : ids.contains id = true := by simp [contains, counted]
    constructor
    · rintro (given | rfl | present)
      · exact .inl given
      · exact .inr known
      · exact .inr present
    · rintro (given | present)
      · exact .inl given
      · exact .inr (.inr present)

/-- A claim never gives out the empty id unless it is asked for. -/
theorem claim_ne_nil (ids : HeadingIds) {id : Text} (nonempty : id ≠ []) :
    (ids.claim id).1 ≠ [] := by
  unfold claim
  cases ids.counter? id with
  | none => exact nonempty
  | some start => simp [numbered]

end MarkdownSite.HeadingIds
