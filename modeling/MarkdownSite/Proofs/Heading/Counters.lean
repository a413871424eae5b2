import MarkdownSite.Proofs.Heading.Ids
import MarkdownSite.Proofs.Value.Entries
import Mathlib.Order.Bounds.Basic

/-!
# The counters of heading ids

The number that a claim gives is looked for from the remembered counter on, and not from one. This
finds the same number as a search through all of them: whatever was claimed before, and however often
the table was emptied, all smaller numbers of each id are taken. An id that was made by a number is
an id like any other and has a counter of its own.
-/

namespace MarkdownSite.HeadingIds

/-! ## Counters -/

/-- Setting the counter of an id changes that of no other. -/
theorem counter?_setCounter (ids : HeadingIds) (id other : Text) (n : Nat) :
    (ids.setCounter id n).counter? other = if other = id then some n else ids.counter? other := by
  unfold setCounter
  by_cases known : ids.contains id = true
  · rw [if_pos known, counter?, Entries.lookup_map fun entry => by dsimp only; split <;> rfl]
    by_cases same : other = id
    · subst same
      obtain ⟨k, found⟩ := Option.isSome_iff_exists.mp known
      rw [counter?] at found
      simp [found]
    · simp [same, counter?]
  · rw [if_neg known, counter?, List.lookup_append]
    by_cases same : other = id
    · subst same
      have absent : ids.counters.lookup other = none := by
        rw [contains, Option.not_isSome_iff_eq_none] at known
        exact known
      simp [absent]
    · simp [same, counter?, List.lookup_cons, beq_false_of_ne same]

/-- An id with a number after it is another one. -/
theorem numbered_ne (id : Text) (n : Nat) : numbered id n ≠ id := by
  intro same
  have lengths := congrArg List.length same
  simp [numbered] at lengths

/-- The counters remember how far the numbers of each id are taken: from one up to the counter, the
counter itself excluded. -/
structure Remembers (ids : HeadingIds) : Prop where
  /-- The first number to try is one or a later one. -/
  positive : ∀ {id n}, ids.counter? id = some n → 1 ≤ n
  /-- All smaller numbers are taken. -/
  taken : ∀ {id n}, ids.counter? id = some n →
    ∀ k, 1 ≤ k → k < n → ids.contains (numbered id k) = true

/-- An empty table has nothing to remember. -/
theorem remembers_empty : Remembers empty where
  positive counted := by cases counted
  taken counted := by cases counted

namespace Remembers

variable {ids : HeadingIds}

/-- What is remembered is decided by the counters. -/
theorem congr (remembers : Remembers ids) {other : HeadingIds}
    (same : ∀ id, other.counter? id = ids.counter? id) : Remembers other where
  positive counted := remembers.positive (same _ ▸ counted)
  taken counted k least most := by
    rw [contains, same]
    exact remembers.taken (same _ ▸ counted) k least most

/-- A counter may be set to a number if all smaller ones are taken. -/
theorem setCounter (remembers : Remembers ids) {id : Text} {n : Nat} (positive : 1 ≤ n)
    (taken : ∀ k, 1 ≤ k → k < n → ids.contains (numbered id k) = true) :
    Remembers (ids.setCounter id n) where
  positive {other m} counted := by
    rw [counter?_setCounter] at counted
    split at counted
    · cases counted
      exact positive
    · exact remembers.positive counted
  taken {other m} counted k least most := by
    rw [contains_setCounter]
    rw [counter?_setCounter] at counted
    split at counted
    · rename_i same
      cases counted
      exact .inr (same ▸ taken k least most)
    · exact .inr (remembers.taken counted k least most)

/-- The search from the counter of an id on passes no free number, and none is free before it. -/
theorem taken_of_lt_nextFree (remembers : Remembers ids) {id : Text} {start : Nat}
    (counted : ids.counter? id = some start) {k : Nat} (least : 1 ≤ k)
    (most : k < ids.nextFree id start ids.size) : ids.contains (numbered id k) = true := by
  obtain ⟨-, -, passed, -⟩ := ids.nextFree_spec id start ids.size
  rcases Nat.lt_or_ge k start with early | late
  · exact remembers.taken counted k least early
  · exact passed k late most

/-- The search from the counter of an id on finds the least free one of all its numbers. -/
theorem isLeast_nextFree (remembers : Remembers ids) {id : Text} {start : Nat}
    (counted : ids.counter? id = some start) :
    IsLeast {n | 1 ≤ n ∧ ids.contains (numbered id n) = false}
      (ids.nextFree id start ids.size) := by
  have low := (ids.nextFree_spec id start ids.size).1
  refine ⟨⟨(remembers.positive counted).trans low, ids.contains_nextFree id start⟩, ?_⟩
  rintro m ⟨least, free⟩
  by_contra smaller
  have taken := remembers.taken_of_lt_nextFree counted least (Nat.lt_of_not_le smaller)
  rw [free] at taken
  cases taken

/-- A claim keeps what the counters remember. -/
theorem claim (remembers : Remembers ids) (id : Text) : Remembers (ids.claim id).2 := by
  unfold HeadingIds.claim
  cases counted : ids.counter? id with
  | none => exact remembers.setCounter (Nat.le_refl 1) fun k least most => by omega
  | some start =>
    let n := ids.nextFree id start ids.size
    -- The counter passes `n` before `n` is recorded, so between the two the law does not hold.
    have recorded : Remembers (ids.setCounter (numbered id n) 1) :=
      remembers.setCounter (Nat.le_refl 1) fun k least most => by omega
    have passed : Remembers ((ids.setCounter (numbered id n) 1).setCounter id (n + 1)) := by
      refine recorded.setCounter (Nat.le_add_left 1 n) fun k least most => ?_
      rw [contains_setCounter]
      rcases Nat.eq_or_lt_of_le (Nat.le_of_lt_succ most) with rfl | before
      · exact .inl rfl
      · exact .inr (remembers.taken_of_lt_nextFree counted least before)
    refine passed.congr fun other => ?_
    simp only [counter?_setCounter]
    by_cases unique : other = numbered id n
    · rw [if_pos unique, if_pos unique, if_neg (unique ▸ numbered_ne id n)]
    · rw [if_neg unique, if_neg unique]

end Remembers

/-! ## Calls -/

/-- A call that changes which ids are given out. -/
inductive Call where
  /-- Claims an id. -/
  | claim (id : Text)
  /-- Forgets every id. -/
  | reset

namespace Call

/-- The table after a call. -/
def apply (ids : HeadingIds) : Call → HeadingIds
  | claim id => (ids.claim id).2
  | reset => empty

/-- The table after calls one after another, from an empty one on. -/
def after (calls : List Call) : HeadingIds := calls.foldl apply empty

/-- A call keeps what the counters remember. -/
theorem remembers_apply {ids : HeadingIds} (remembers : Remembers ids) (call : Call) :
    Remembers (call.apply ids) := by
  cases call with
  | claim id => exact remembers.claim id
  | reset => exact remembers_empty

/-- After any calls the counters remember which numbers are taken. -/
theorem remembers_after (calls : List Call) : Remembers (after calls) := by
  unfold after
  suffices run : ∀ ids, Remembers ids → Remembers (calls.foldl apply ids) from
    run empty remembers_empty
  induction calls with
  | nil => exact fun ids remembers => remembers
  | cons call calls ih => exact fun ids remembers => ih _ (remembers_apply remembers call)

end Call

/-! ## The full search -/

/-- What a search through all numbers, from one on, gives for an id: the id itself if it is new, and
otherwise the id with the least number that makes it new. -/
inductive Finds (ids : HeadingIds) (id : Text) : Text → Prop
  /-- The id is new. -/
  | new (free : ids.contains id = false) : Finds ids id id
  /-- The id is given out already. -/
  | least (known : ids.contains id = true) {k : Nat}
    (first : IsLeast {n | 1 ≤ n ∧ ids.contains (numbered id n) = false} k) :
    Finds ids id (numbered id k)

/-- The search gives one id. -/
theorem Finds.unique {ids : HeadingIds} {id one two : Text} (finds : Finds ids id one)
    (other : Finds ids id two) : one = two := by
  cases finds with
  | new free =>
    cases other with
    | new _ => rfl
    | least known _ => cases free.symm.trans known
  | least known first =>
    cases other with
    | new free => cases free.symm.trans known
    | least _ second => rw [first.unique second]

/-- A claim gives what the search finds, if the counters remember which numbers are taken. -/
theorem Remembers.finds_claim {ids : HeadingIds} (remembers : Remembers ids) (id : Text) :
    Finds ids id (ids.claim id).1 := by
  unfold HeadingIds.claim
  cases counted : ids.counter? id with
  | none => exact .new (by simp [contains, counted])
  | some start =>
    exact .least (by simp [contains, counted]) (remembers.isLeast_nextFree counted)

/-- **A claim gives the id that a search through all numbers finds**, after any calls: the id that is
asked for if it is new, and otherwise the one with the least number that makes it new. -/
theorem claim_eq_iff_finds (calls : List Call) (id given : Text) :
    ((Call.after calls).claim id).1 = given ↔ Finds (Call.after calls) id given := by
  have finds := (Call.remembers_after calls).finds_claim id
  constructor
  · rintro rfl
    exact finds
  · exact finds.unique

/-- An id that was made by a number is numbered like any other when it is asked for. -/
example : ((Call.after [.claim "a", .claim "a"]).claim "a-1").1 = "a-1-1" := by
  decide

end MarkdownSite.HeadingIds
