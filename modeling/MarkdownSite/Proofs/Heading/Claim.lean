import MarkdownSite.Proofs.Heading.Counters
import Mathlib.Data.List.DropRight
import Mathlib.Data.List.Induction
import Mathlib.Data.Nat.Find

/-!
# Claims of heading ids

What a claim does to a table, and what a table holds after any calls.

A claim of an id that is given out tries one number after another until one makes the id new. The
search ends from every number on, with no bound set to its tries: the ids that it passes are all
different, so they are no more than the table has.

Then the claim writes twice: it moves the counter of the id on, which is there already, and it records
the id that it gives, which is not. So one claim makes the table longer by one entry, behind all
others, and no entry of another id is touched. After any calls the table holds the ids that claims
gave since it was last emptied, one entry for each claim.
-/

namespace MarkdownSite.HeadingIds

/-! ## The search for a new id -/

/-- The id with an integer after it. The counters of a table are natural numbers; a search may start
at one below zero as well. -/
def suffixed (id : Text) (n : Int) : Text := id ++ '-' :: Text.ofInt n

/-- Different integers make different ids of one. -/
theorem suffixed_injective (id : Text) : Function.Injective (suffixed id) := fun _ _ same =>
  Text.ofInt_injective (List.cons.inj (List.append_cancel_left same)).2

/-- The numbers from one on make ids that are all different. -/
theorem suffixed_from_injective (id : Text) (start : Int) :
    Function.Injective fun k : Nat => suffixed id (start + k) := by
  intro a b same
  have numbers : start + a = start + b := suffixed_injective id same
  omega

/-- A run of the search from a number on: each step passes a number whose id is given out, and the run
stops at the first number that makes the id new. -/
inductive Searches (ids : HeadingIds) (id : Text) :
    (start : Int) → (steps : Nat) → (found : Int) → Prop
  /-- The id is new with this number. -/
  | stop {n : Int} (new : ids.contains (suffixed id n) = false) : Searches ids id n 0 n
  /-- The id is given out with this number, and the next one is tried. -/
  | pass {n found : Int} {steps : Nat} (taken : ids.contains (suffixed id n) = true)
      (rest : Searches ids id (n + 1) steps found) : Searches ids id n (steps + 1) found

section

variable {ids : HeadingIds} {id : Text} {start found : Int} {steps : Nat}

/-- A run passes numbers one after another, all of them taken, and the next one is free. -/
theorem searches_iff : Searches ids id start steps found ↔
    found = start + steps ∧ (∀ k < steps, ids.contains (suffixed id (start + k)) = true) ∧
      ids.contains (suffixed id found) = false := by
  constructor
  · intro run
    induction run with
    | stop new => exact ⟨by simp, fun k before => absurd before (Nat.not_lt_zero k), new⟩
    | @pass n found steps taken _ ih =>
      obtain ⟨place, passed, new⟩ := ih
      refine ⟨by omega, fun k before => ?_, new⟩
      cases k with
      | zero => simpa using taken
      | succ k =>
        have next : n + ((k + 1 : Nat) : Int) = n + 1 + k := by omega
        exact next ▸ passed k (Nat.lt_of_succ_lt_succ before)
  · rintro ⟨rfl, passed, new⟩
    induction steps generalizing start with
    | zero => simpa using Searches.stop new
    | succ steps ih =>
      have shift (k : Nat) : start + ((k + 1 : Nat) : Int) = start + 1 + k := by omega
      rw [shift] at new ⊢
      refine .pass (by simpa using passed 0 (Nat.succ_pos steps)) (ih (fun k before => ?_) new)
      exact shift k ▸ passed (k + 1) (Nat.succ_lt_succ before)

/-- Two runs from one number find the same. -/
theorem Searches.found_unique {steps' : Nat} {found' : Int}
    (run : Searches ids id start steps found) (other : Searches ids id start steps' found') :
    found = found' := by
  induction run generalizing steps' with
  | stop new =>
    cases other with
    | stop _ => rfl
    | pass taken _ => cases new.symm.trans taken
  | pass taken _ ih =>
    cases other with
    | stop new => cases new.symm.trans taken
    | pass _ rest => exact ih rest

/-- A run takes no more steps than the table has ids. -/
theorem Searches.steps_le_size (run : Searches ids id start steps found) : steps ≤ ids.size :=
  le_size_of_contains (suffixed_from_injective id start) (searches_iff.mp run).2.1

end

/-- From every number on there is a run: not all the ids from there on can be given out. -/
theorem exists_searches (ids : HeadingIds) (id : Text) (start : Int) :
    ∃ steps found, Searches ids id start steps found := by
  have free : ∃ k : Nat, ids.contains (suffixed id (start + k)) = false := by
    by_contra none
    have every : ∀ k < ids.size + 1, ids.contains (suffixed id (start + k)) = true := by
      intro k _
      simpa using not_exists.mp none k
    exact Nat.not_succ_le_self ids.size
      (le_size_of_contains (suffixed_from_injective id start) every)
  refine ⟨Nat.find free, start + Nat.find free, searches_iff.mpr ⟨rfl, ?_, Nat.find_spec free⟩⟩
  intro k before
  simpa using Nat.find_min free before

/-- The search with as many tries as there are ids is a run of the search without a bound. -/
theorem searches_nextFree (ids : HeadingIds) (id : Text) (start : Nat) :
    Searches ids id start (ids.nextFree id start ids.size - start)
      (ids.nextFree id start ids.size) := by
  obtain ⟨low, -, passed, -⟩ := ids.nextFree_spec id start ids.size
  refine searches_iff.mpr ⟨by omega, fun k before => ?_, ids.contains_nextFree id start⟩
  exact passed (start + k) (Nat.le_add_right start k) (by omega)

/-- **The search for a new id ends**: from any number on there is a run, every run takes at most as
many steps as the table has ids, and the id that it finds is not in the table. From the counter of an
id that is given out on, this is the id that a claim gives. -/
theorem search_ends (ids : HeadingIds) (id : Text) (start : Int) :
    (∃ steps found, Searches ids id start steps found) ∧
      ∀ steps found, Searches ids id start steps found →
        steps ≤ ids.size ∧ ids.contains (suffixed id found) = false ∧
          ∀ counter : Nat, ids.counter? id = some counter → start = counter →
            (ids.claim id).1 = suffixed id found := by
  refine ⟨exists_searches ids id start, fun steps found run => ?_⟩
  refine ⟨run.steps_le_size, (searches_iff.mp run).2.2, ?_⟩
  rintro counter counted rfl
  have same : (ids.nextFree id counter ids.size : Int) = found :=
    (searches_nextFree ids id counter).found_unique run
  rw [claim, counted, ← same]
  rfl

/-- A counter that is behind: two numbers are passed before one is free. -/
theorem search_ends_of_taken :
    let ids : HeadingIds := ⟨[("a", 1), ("a-2", 5), ("a-1", 1)]⟩
    Searches ids "a" 1 2 3 ∧ 2 ≤ ids.size ∧ ids.contains (suffixed "a" 3) = false ∧
      ids.counter? "a" = some 1 ∧ (ids.claim "a").1 = suffixed "a" 3 := by
  intro ids
  have run : Searches ids "a" 1 2 3 := .pass (by decide) (.pass (by decide) (.stop (by decide)))
  have counted : ids.counter? "a" = some 1 := by decide
  obtain ⟨bound, new, given⟩ := (search_ends ids "a" 1).2 2 3 run
  exact ⟨run, bound, new, counted, given 1 counted rfl⟩

/-! ## The entries that a claim writes -/

/-- The ids of the table, in the order in which they were given out. -/
def keys (ids : HeadingIds) : List Text := ids.counters.map Prod.fst

/-- Setting the counter of an id that is given out leaves the ids as they are. -/
theorem keys_setCounter_of_contains {ids : HeadingIds} {id : Text}
    (known : ids.contains id = true) (n : Nat) : (ids.setCounter id n).keys = ids.keys := by
  rw [setCounter, if_pos known, keys, List.map_map, keys]
  refine List.map_congr_left fun entry _ => ?_
  simp only [Function.comp]
  split <;> rfl

/-- Setting the counter of a new id puts it behind the others. -/
theorem keys_setCounter_of_new {ids : HeadingIds} {id : Text} (new : ids.contains id = false)
    (n : Nat) : (ids.setCounter id n).keys = ids.keys ++ [id] := by
  rw [setCounter, if_neg (by simp [new]), keys, List.map_append, keys]
  rfl

/-- What a table becomes when a claim of the id `asked` gives the id `given`. -/
structure Grows (ids : HeadingIds) (asked given : Text) (later : HeadingIds) : Prop where
  /-- The id that is given was not in the table. -/
  new : ids.contains given = false
  /-- It stands behind the ids of the table, which are all there still. -/
  keys : later.keys = ids.keys ++ [given]
  /-- The entries of other ids than the one asked for stay as they are. -/
  kept : ∀ {id n}, id ≠ asked → ids.counter? id = some n → later.counter? id = some n

/-- A claim writes one new entry, and of those that are there at most the counter of the id that is
asked for. -/
theorem grows_claim (ids : HeadingIds) (asked : Text) :
    Grows ids asked (ids.claim asked).1 (ids.claim asked).2 := by
  have new := ids.claim_new asked
  unfold claim at new ⊢
  cases counted : ids.counter? asked with
  | none =>
    simp only [counted] at new
    refine ⟨new, keys_setCounter_of_new new 1, fun other there => ?_⟩
    rw [counter?_setCounter, if_neg other, there]
  | some start =>
    simp only [counted] at new
    let n := ids.nextFree asked start ids.size
    have known : ids.contains asked = true := by simp [contains, counted]
    -- The counter that is moved on adds no id, so the one that is given is new after it too.
    have unique : (ids.setCounter asked (n + 1)).contains (numbered asked n) = false := by
      rw [← Bool.not_eq_true, contains_setCounter]
      rintro (same | taken)
      · exact numbered_ne asked n same
      · cases new.symm.trans taken
    refine ⟨new, ?_, fun {id m} other there => ?_⟩
    · rw [keys_setCounter_of_new unique, keys_setCounter_of_contains known]
    · have apart : id ≠ numbered asked n := by
        rintro rfl
        rw [contains, there] at new
        cases new
      rw [counter?_setCounter, if_neg apart, counter?_setCounter, if_neg other, there]

/-- A claim makes the table longer by one entry. -/
theorem size_claim (ids : HeadingIds) (asked : Text) :
    (ids.claim asked).2.size = ids.size + 1 := by
  simpa [keys, size] using congrArg List.length (ids.grows_claim asked).keys

/-! ## Since the last reset -/

/-- An empty table has no id. -/
theorem contains_empty (id : Text) : empty.contains id = false := rfl

namespace Call

/-- Whether a call empties the table. -/
def isReset : Call → Bool
  | claim _ => false
  | reset => true

/-- The claims since the last reset: the longest end of the calls without one. -/
def sinceReset (calls : List Call) : List Call := calls.rtakeWhile fun call => !call.isReset

/-- Whether a claim since the last reset gave an id: no reset follows the claim. -/
def Gave (calls : List Call) (id : Text) : Prop :=
  ∃ before asked later, calls = before ++ claim asked :: later ∧ reset ∉ later ∧
    ((after before).claim asked).1 = id

/-- The table after one more call. -/
theorem after_concat (calls : List Call) (call : Call) :
    after (calls ++ [call]) = call.apply (after calls) := by
  simp [after]

/-- A call among some and one more is this last one or stands among those before it. -/
theorem concat_eq_append_cons {calls before later : List Call} {call last : Call}
    (split : calls ++ [last] = before ++ call :: later) :
    calls = before ∧ last = call ∧ later = [] ∨
      ∃ between, later = between ++ [last] ∧ calls = before ++ call :: between := by
  rcases List.eq_nil_or_concat' later with rfl | ⟨between, call', rfl⟩
  · obtain ⟨same, ends⟩ := List.append_inj' split rfl
    exact .inl ⟨same, (List.cons.inj ends).1, rfl⟩
  · rw [← List.cons_append, ← List.append_assoc] at split
    obtain ⟨same, ends⟩ := List.append_inj' split rfl
    exact .inr ⟨between, by rw [ends], same⟩

/-- Without a call nothing was given. -/
theorem not_gave_nil (id : Text) : ¬Gave [] id := by
  rintro ⟨before, asked, later, split, -⟩
  cases before <;> cases split

/-- One more claim gives one more id. -/
theorem gave_claim {calls : List Call} {asked id : Text} :
    Gave (calls ++ [claim asked]) id ↔ id = ((after calls).claim asked).1 ∨ Gave calls id := by
  constructor
  · rintro ⟨before, earlier, later, split, quiet, rfl⟩
    rcases concat_eq_append_cons split with ⟨rfl, same, -⟩ | ⟨between, rfl, rfl⟩
    · cases same
      exact .inl rfl
    · exact .inr ⟨before, earlier, between, rfl, fun there => quiet (by simp [there]), rfl⟩
  · rintro (rfl | ⟨before, earlier, later, rfl, quiet, given⟩)
    · exact ⟨calls, asked, [], rfl, List.not_mem_nil, rfl⟩
    · exact ⟨before, earlier, later ++ [claim asked], by simp, by simp [quiet], given⟩

/-- After a reset nothing was given. -/
theorem not_gave_reset (calls : List Call) (id : Text) : ¬Gave (calls ++ [reset]) id := by
  rintro ⟨before, asked, later, split, quiet, -⟩
  rcases concat_eq_append_cons split with ⟨-, same, -⟩ | ⟨between, rfl, -⟩
  · cases same
  · exact quiet (by simp)

/-- An id is in the table exactly when a claim since the last reset gave it. -/
theorem contains_after_iff (calls : List Call) (id : Text) :
    (after calls).contains id = true ↔ Gave calls id := by
  induction calls using List.reverseRecOn with
  | nil => simp [after, contains_empty, not_gave_nil]
  | append_singleton calls call ih =>
    rw [after_concat]
    cases call with
    | claim asked => rw [gave_claim, ← ih, apply, contains_claim]
    | reset => simp [apply, contains_empty, not_gave_reset]

/-- The table has one entry for each claim since the last reset. -/
theorem size_after (calls : List Call) : (after calls).size = (sinceReset calls).length := by
  induction calls using List.reverseRecOn with
  | nil => rfl
  | append_singleton calls call ih =>
    rw [after_concat]
    cases call with
    | claim asked =>
      rw [sinceReset, List.rtakeWhile_concat_pos _ _ _ rfl, List.length_append, ← sinceReset, ← ih]
      exact size_claim (after calls) asked
    | reset =>
      rw [sinceReset, List.rtakeWhile_concat_neg _ _ _ (by decide)]
      rfl

/-- **A table holds what was given since it was last emptied**, after any calls: an id stands in it
exactly when a claim since the last reset gave it, there are as many entries as claims since then, and
the next claim, whichever it is, writes an entry of its own and over none of those of other ids. -/
theorem table_holds_what_was_given (calls : List Call) :
    (∀ id, (after calls).contains id = true ↔ Gave calls id) ∧
      (after calls).size = (sinceReset calls).length ∧
        ∀ asked, Grows (after calls) asked ((after calls).claim asked).1
          (after (calls ++ [claim asked])) := by
  refine ⟨contains_after_iff calls, size_after calls, fun asked => ?_⟩
  rw [after_concat]
  exact grows_claim (after calls) asked

/-- What was claimed before a reset counts no more. -/
example : (after [.claim "a", .claim "a", .reset, .claim "a-1", .claim "a"]).keys
    = ["a-1".toList, "a".toList] := by
  decide

end Call

end MarkdownSite.HeadingIds
