import MarkdownSite.Proofs.Hooks.History

/-!
# Strict and lenient runs

A run that lets failures pass calls every hook, each with what the one before it has left. A strict
run makes the same calls up to the first one that fails, and ends there with the failure. Which calls
a run makes is seen from hooks that note in the context how they are called.
-/

namespace MarkdownSite

variable {κ ω σ ε : Type}

/-- A call of a hook. -/
structure HookVisit (κ ω σ : Type) where
  /-- The hook. -/
  hook : κ
  /-- The object that it is given. -/
  object : ω
  /-- The context that it is given. -/
  context : σ

namespace HookVisit

/-- What the hook does in a call. -/
def step (hooks : κ → Hook ω σ ε) (visit : HookVisit κ ω σ) : HookStep ω σ ε :=
  hooks visit.hook visit.object visit.context

/-- The failure of the hook in a call, if it fails. -/
def failure? (hooks : κ → Hook ω σ ε) (visit : HookVisit κ ω σ) : Option (HookFault ε) :=
  match (visit.step hooks).result with
  | .failed fault => some fault
  | .done | .replaced _ => none

end HookVisit

namespace Hook

/-- The hook, with a note in the context of each call that is made of it. -/
def noted (hooks : κ → Hook ω σ ε) (hook : κ) : Hook ω (σ × List (HookVisit κ ω σ)) ε :=
  fun object context =>
    let step := hooks hook object context.1
    ⟨step.object, (step.context, context.2 ++ [⟨hook, object, context.1⟩]), step.result⟩

/-- The calls of hooks one after another, each with what the one before it has left. -/
def visits (hooks : κ → Hook ω σ ε) : List (Registration κ) → ω × σ → List (HookVisit κ ω σ)
  | [], _ => []
  | one :: rest, given =>
    ⟨one.hook, given.1, given.2⟩ :: visits hooks rest ((hooks one.hook).pass given)

variable (hooks : κ → Hook ω σ ε)

/-- Every hook is called once. -/
theorem length_visits (order : List (Registration κ)) (given : ω × σ) :
    (visits hooks order given).length = order.length := by
  induction order generalizing given with
  | nil => rfl
  | cons one rest ih => rw [visits, List.length_cons, List.length_cons, ih]

/-- The call of a hook is made with what the hooks before it have left, one after another. -/
theorem visits_append (before rest : List (Registration κ)) (given : ω × σ) :
    visits hooks (before ++ rest) given =
      visits hooks before given ++
        visits hooks rest (before.foldl (fun given one => (hooks one.hook).pass given) given) := by
  induction before generalizing given with
  | nil => rfl
  | cons one before ih => rw [List.cons_append, visits, ih, visits, List.cons_append, List.foldl_cons]

/-- A hook leaves the same whether or not its calls are noted, and one more note if they are. -/
theorem pass_noted (hook : κ) (object : ω) (context : σ) (notes : List (HookVisit κ ω σ)) :
    (noted hooks hook).pass (object, context, notes) =
      let left := (hooks hook).pass (object, context)
      (left.1, left.2, notes ++ [⟨hook, object, context⟩]) := by
  unfold pass noted
  dsimp only
  split <;> rfl

/-- Hooks leave the same one after another whether or not their calls are noted, and the notes of
all calls if they are. -/
theorem foldl_pass_noted (order : List (Registration κ)) (object : ω) (context : σ)
    (notes : List (HookVisit κ ω σ)) :
    order.foldl (fun given one => (noted hooks one.hook).pass given) (object, context, notes) =
      let left := order.foldl (fun given one => (hooks one.hook).pass given) (object, context)
      (left.1, left.2, notes ++ visits hooks order (object, context)) := by
  induction order generalizing object context notes with
  | nil => simp [visits]
  | cons one rest ih =>
    rw [List.foldl_cons, List.foldl_cons, pass_noted, visits]
    dsimp only
    rw [ih, List.append_assoc, List.singleton_append]

end Hook

section Run

variable (hooks : κ → Hook ω σ ε) (target : Text)

/-- A call that does not fail is followed by the others, whether or not failures are let pass. -/
theorem run_runHooks_passed (strict : Bool) (one : Registration κ) (rest : List (Registration κ))
    (object : ω) (context : σ) (records : List LogRecord)
    (passes : HookVisit.failure? hooks ⟨one.hook, object, context⟩ = none) :
    (runHooks strict target (runOf hooks (one :: rest)) object context).run records =
      (runHooks strict target (runOf hooks rest) ((hooks one.hook).pass (object, context)).1
        ((hooks one.hook).pass (object, context)).2).run records := by
  unfold HookVisit.failure? HookVisit.step at passes
  rw [runOf, List.map_cons, runHooks]
  cases ends : (hooks one.hook object context).result with
  | done => simp only [Hook.pass, ends]
  | replaced other => simp only [Hook.pass, ends]
  | failed fault => simp only [ends, reduceCtorEq] at passes

/-- A call that fails ends a strict run. -/
theorem run_runHooks_failed (one : Registration κ) (rest : List (Registration κ)) (object : ω)
    (context : σ) (records : List LogRecord) {fault : HookFault ε}
    (fails : HookVisit.failure? hooks ⟨one.hook, object, context⟩ = some fault) :
    ((runHooks true target (runOf hooks (one :: rest)) object context).run records).1 =
      (.error ⟨target, fault⟩, (hooks one.hook object context).context) := by
  unfold HookVisit.failure? HookVisit.step at fails
  rw [runOf, List.map_cons, runHooks]
  cases ends : (hooks one.hook object context).result with
  | done => simp only [ends, reduceCtorEq] at fails
  | replaced other => simp only [ends, reduceCtorEq] at fails
  | failed own =>
    simp only [ends, Option.some.injEq] at fails
    rw [← fails]
    rfl

/-- A call fails the same whether or not it is noted. -/
theorem failure?_noted (hook : κ) (object : ω) (context : σ) (notes : List (HookVisit κ ω σ)) :
    HookVisit.failure? (Hook.noted hooks) ⟨hook, object, context, notes⟩ =
      HookVisit.failure? hooks ⟨hook, object, context⟩ :=
  rfl

/-- A run is the same whether or not its calls are noted. -/
theorem run_runHooks_noted (strict : Bool) (order : List (Registration κ)) (object : ω) (context : σ)
    (notes : List (HookVisit κ ω σ)) (records : List LogRecord) :
    (runHooks strict target (runOf hooks order) object context).run records =
      let noted := (runHooks strict target (runOf (Hook.noted hooks) order) object
        (context, notes)).run records
      ((noted.1.1, noted.1.2.1), noted.2) := by
  induction order generalizing object context notes records with
  | nil => rfl
  | cons one rest ih =>
    simp only [runOf, List.map_cons, runHooks, Hook.noted]
    cases (hooks one.hook object context).result with
    | done => exact ih _ _ _ records
    | replaced other => exact ih _ _ _ records
    | failed fault =>
      cases strict with
      | true => rfl
      | false => exact ih _ _ _ _

/-- Where no call fails a strict run is a lenient one. -/
theorem run_runHooks_strict (order : List (Registration κ)) (object : ω) (context : σ)
    (notes : List (HookVisit κ ω σ)) (records : List LogRecord)
    (pass : ∀ visit ∈ Hook.visits hooks order (object, context), visit.failure? hooks = none) :
    (runHooks true target (runOf (Hook.noted hooks) order) object (context, notes)).run records =
      (runHooks false target (runOf (Hook.noted hooks) order) object (context, notes)).run
        records := by
  induction order generalizing object context notes with
  | nil => rfl
  | cons one rest ih =>
    rw [Hook.visits, List.forall_mem_cons] at pass
    have passes := (failure?_noted hooks one.hook object context notes).trans pass.1
    rw [run_runHooks_passed _ target true one rest object _ records passes,
      run_runHooks_passed _ target false one rest object _ records passes, Hook.pass_noted]
    exact ih _ _ _ pass.2

/-- The first call that fails ends a strict run, and no other call follows. -/
theorem run_runHooks_first_failure (order : List (Registration κ)) (object : ω) (context : σ)
    (notes : List (HookVisit κ ω σ)) (records : List LogRecord)
    {before after : List (HookVisit κ ω σ)} {failing : HookVisit κ ω σ} {fault : HookFault ε}
    (calls : Hook.visits hooks order (object, context) = before ++ failing :: after)
    (pass : ∀ visit ∈ before, visit.failure? hooks = none)
    (fails : failing.failure? hooks = some fault) :
    ((runHooks true target (runOf (Hook.noted hooks) order) object (context, notes)).run
        records).1 =
      (.error ⟨target, fault⟩, (failing.step hooks).context, notes ++ (before ++ [failing])) := by
  induction order generalizing object context notes before with
  | nil => simp [Hook.visits] at calls
  | cons one rest ih =>
    cases before with
    | nil =>
      rw [Hook.visits, List.nil_append, List.cons.injEq] at calls
      obtain ⟨rfl, -⟩ := calls
      have ends := (failure?_noted hooks one.hook object context notes).trans fails
      exact run_runHooks_failed _ target one rest object _ records ends
    | cons first before =>
      rw [Hook.visits, List.cons_append, List.cons.injEq] at calls
      obtain ⟨rfl, others⟩ := calls
      rw [List.forall_mem_cons] at pass
      have passes := (failure?_noted hooks one.hook object context notes).trans pass.1
      rw [run_runHooks_passed _ target true one rest object _ records passes, Hook.pass_noted]
      exact (ih _ _ _ others pass.2).trans (by simp)

end Run

/-- **A strict run is the lenient one up to the first failure.** A dispatch that lets failures pass
never fails: it calls every hook once, by priority and then in the order in which they were made,
each with what those before it have left, and gives what the last one has left. A strict dispatch
makes the same calls up to the first that fails; it makes no other and fails with the name of the
target and with what failed the hook. If none fails, both give and leave the same. -/
theorem strict_dispatch_stops_at_failure (registry : HookRegistry κ) (name : Text) :
    ∃ order, IsRunOrder order (registry.registeredFor name) ∧
      ∀ {ω σ ε : Type} (hooks : κ → Hook ω σ ε) (object : ω) (context : σ)
          (records : List LogRecord),
        let noted (strict : Bool) := ((registry.dispatch (Hook.noted hooks) strict name object
          (context, [])).run records).1
        let left (hooksBefore : List (Registration κ)) :=
          hooksBefore.foldl (fun given one => (hooks one.hook).pass given) (object, context)
        let visits := Hook.visits hooks order (object, context)
        (∀ strict, ((registry.dispatch hooks strict name object context).run records).1 =
          ((noted strict).1, (noted strict).2.1)) ∧
        (visits.length = order.length ∧ ∀ before one after, order = before ++ one :: after →
          visits[before.length]? = some ⟨one.hook, (left before).1, (left before).2⟩) ∧
        noted false = (.ok (left order).1, (left order).2, visits) ∧
        (∀ before failing after fault, visits = before ++ failing :: after →
          (∀ visit ∈ before, visit.failure? hooks = none) →
          failing.failure? hooks = some fault →
          noted true =
            (.error ⟨name, fault⟩, (failing.step hooks).context, before ++ [failing])) ∧
        ((∀ visit ∈ visits, visit.failure? hooks = none) → noted true = noted false) := by
  obtain ⟨order, runs, dispatched⟩ := registry.dispatch_eq name
  refine ⟨order, runs, fun hooks object context records => ?_⟩
  simp only [dispatched]
  refine ⟨fun strict => ?_, ⟨?_, ?_⟩, ?_, ?_, fun pass => ?_⟩
  · exact congrArg Prod.fst (run_runHooks_noted hooks name strict order object context [] records)
  · exact Hook.length_visits hooks order _
  · rintro before one after rfl
    rw [Hook.visits_append, ← Hook.length_visits hooks before (object, context),
      List.getElem?_append_right (Nat.le_refl _), Nat.sub_self, Hook.visits]
    rfl
  · rw [run_runHooks_lenient, List.foldl_map, Hook.foldl_pass_noted, List.nil_append]
  · intro before failing after fault calls pass fails
    rw [run_runHooks_first_failure hooks name order object context [] records calls pass fails,
      List.nil_append]
  · rw [run_runHooks_strict hooks name order object context [] records pass]

end MarkdownSite
