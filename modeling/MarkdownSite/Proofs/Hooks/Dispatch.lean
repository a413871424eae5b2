import Mathlib.Data.List.Basic
import MarkdownSite.Hooks.Registry

/-!
# Runs of hooks

The registrations of a target run in ascending priority, those of equal priority in the order in
which they were made. Where failures are let pass, every hook runs, and each is given what the one
before it has left.
-/

namespace MarkdownSite

variable {κ ω σ ε : Type}

/-- The order in which registrations run, given in the order in which they were made. -/
structure IsRunOrder (order registrations : List (Registration κ)) : Prop where
  /-- Each registration runs exactly once. -/
  once : order.Perm registrations
  /-- Lower priorities run earlier. -/
  ascending : order.Pairwise fun first second => first.priority ≤ second.priority
  /-- Registrations of one priority run in the order in which they were made. -/
  stable : ∀ priority : Int, order.filter (fun one => one.priority = priority) =
    registrations.filter fun one => one.priority = priority

/-- Sorting by priority gives the order in which registrations run. -/
theorem isRunOrder_mergeSort (registrations : List (Registration κ)) :
    IsRunOrder (registrations.mergeSort fun first second => first.priority ≤ second.priority)
      registrations := by
  have trans : ∀ first second third : Registration κ,
      decide (first.priority ≤ second.priority) = true →
      decide (second.priority ≤ third.priority) = true →
      decide (first.priority ≤ third.priority) = true := by
    intro first second third
    simp only [decide_eq_true_eq]
    omega
  have total : ∀ first second : Registration κ,
      (decide (first.priority ≤ second.priority) ||
        decide (second.priority ≤ first.priority)) = true := by
    intro first second
    simp only [Bool.or_eq_true, decide_eq_true_eq]
    omega
  have once := registrations.mergeSort_perm fun first second => first.priority ≤ second.priority
  refine ⟨once, ?_, fun priority => ?_⟩
  · simpa only [decide_eq_true_eq] using List.pairwise_mergeSort trans total registrations
  -- the registrations of one priority are in order already, so sorting keeps them as they stand
  have level : (registrations.filter fun one => one.priority = priority).Pairwise
      fun first second => decide (first.priority ≤ second.priority) = true := by
    refine List.pairwise_of_forall_mem_list ?_
    intro first inFirst second inSecond
    have one := List.mem_filter.mp inFirst
    have two := List.mem_filter.mp inSecond
    simp only [decide_eq_true_eq] at one two ⊢
    omega
  have kept := List.sublist_mergeSort trans total level List.filter_sublist
  have within := kept.filter fun one => one.priority = priority
  rw [List.filter_filter] at within
  simp only [Bool.and_self] at within
  exact (within.eq_of_length (once.filter _).length_eq.symm).symm

/-- What a hook leaves if its failure is let pass: the object that takes the place of the one given,
or else that one as it is left, and the context. -/
def Hook.pass (hook : Hook ω σ ε) (given : ω × σ) : ω × σ :=
  let step := hook given.1 given.2
  match step.result with
  | .replaced object => (object, step.context)
  | .done | .failed _ => (step.object, step.context)

/-- Where failures are let pass, hooks run one after another and each is given what the one before
it has left. -/
theorem run_runHooks_lenient (target : Text) (hooks : List (Int × Hook ω σ ε)) (object : ω)
    (context : σ) (records : List LogRecord) :
    ((runHooks false target hooks object context).run records).1 =
      let left := hooks.foldl (fun given hook => hook.2.pass given) (object, context)
      (.ok left.1, left.2) := by
  induction hooks generalizing object context records with
  | nil => rfl
  | cons first rest ih =>
    obtain ⟨priority, hook⟩ := first
    rw [runHooks, List.foldl_cons]
    cases ends : (hook object context).result with
    | done =>
      have passed : hook.pass (object, context) =
          ((hook object context).object, (hook object context).context) := by
        simp only [Hook.pass, ends]
      rw [passed]
      exact ih _ _ records
    | replaced other =>
      have passed : hook.pass (object, context) = (other, (hook object context).context) := by
        simp only [Hook.pass, ends]
      rw [passed]
      exact ih _ _ records
    | failed fault =>
      have passed : hook.pass (object, context) =
          ((hook object context).object, (hook object context).context) := by
        simp only [Hook.pass, ends]
      rw [passed]
      exact ih _ _ _

end MarkdownSite
