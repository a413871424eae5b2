import MarkdownSite.Proofs.Hooks.Dispatch

/-!
# Hooks that live

Which hooks are registered is decided by the calls so far: a registration lives until its hook is
taken away from its target, or all hooks are. The registry holds the registrations that live, target
by target and in the order in which they were made, and everything it answers is about them.
-/

namespace MarkdownSite

variable {κ : Type}

/-! ## The registry by the names of targets -/

namespace HookTarget

/-- A target is found by its name only. -/
theorem ofName?_eq_some {t : Text} {target : HookTarget} (found : ofName? t = some target) :
    target.name = t := by
  unfold ofName? at found
  have same := List.find?_some found
  exact eq_of_beq same

/-- Different names are those of different targets. -/
theorem ofName?_inj {first second : Text} {one two : HookTarget} (differ : first ≠ second)
    (isOne : ofName? first = some one) (isTwo : ofName? second = some two) : one ≠ two := by
  rintro rfl
  exact differ ((ofName?_eq_some isOne).symm.trans (ofName?_eq_some isTwo))

end HookTarget

/-- The hooks of registrations as they are run. -/
abbrev runOf (hooks : κ → Hook ω σ ε) (order : List (Registration κ)) : List (Int × Hook ω σ ε) :=
  order.map fun one => (one.priority, hooks one.hook)

namespace HookRegistry

variable (registry : HookRegistry κ)

/-- The hooks registered for the target of a name, in order of registration; a target that does not
exist has none. -/
def registeredFor (name : Text) : List (Registration κ) :=
  match HookTarget.ofName? name with
  | some target => registry.registered target
  | none => []

omit registry in
/-- The empty registry has no hooks. -/
theorem registeredFor_empty (name : Text) : ({} : HookRegistry κ).registeredFor name = [] := by
  unfold registeredFor
  split <;> rfl

/-- Setting the hooks of a target changes those of no other. -/
theorem registered_setRegistered (target other : HookTarget)
    (registrations : List (Registration κ)) :
    (registry.setRegistered target registrations).registered other =
      if other = target then registrations else registry.registered other := by
  have changed (entries : List (HookTarget × List (Registration κ))) :
      (entries.map fun entry =>
          (entry.1, if entry.1 = target then registrations else entry.2)).lookup other =
        (entries.lookup other).map fun old => if other = target then registrations else old := by
    induction entries with
    | nil => rfl
    | cons entry entries ih =>
      obtain ⟨t, old⟩ := entry
      rw [List.map_cons, List.lookup_cons, List.lookup_cons, ih]
      by_cases same : other = t
      · simp [same]
      · simp [beq_false_of_ne same]
  unfold setRegistered registered
  by_cases known : (registry.entries.lookup target).isSome = true
  · simp only [known, ↓reduceIte]
    refine (congrArg (Option.getD · []) (changed registry.entries)).trans ?_
    by_cases same : other = target
    · obtain ⟨old, found⟩ := Option.isSome_iff_exists.mp known
      simp [same, found]
    · simp [same]
  · simp only [known, Bool.false_eq_true, ↓reduceIte, List.lookup_append]
    by_cases same : other = target
    · have absent := Option.not_isSome_iff_eq_none.mp known
      simp [same, absent]
    · simp [same, List.lookup_cons, beq_false_of_ne same]

/-- Where the registrations of one target are set, those of every other name stay. -/
theorem registeredFor_setRegistered {name : Text} {owner : HookTarget}
    (named : HookTarget.ofName? name = some owner) (registrations : List (Registration κ))
    (target : Text) :
    (registry.setRegistered owner registrations).registeredFor target =
      if name = target then registrations else registry.registeredFor target := by
  unfold registeredFor
  by_cases same : name = target
  · subst same
    simp only [named, registered_setRegistered, ↓reduceIte]
  · cases found : HookTarget.ofName? target with
    | none => simp only [same, ↓reduceIte]
    | some other =>
      have differ := HookTarget.ofName?_inj same named found
      simp only [registered_setRegistered, Ne.symm differ, same, ↓reduceIte]

/-- A target has hooks exactly if there are registrations for it. -/
theorem hasHooks_iff (name : Text) :
    registry.hasHooks name = true ↔ registry.registeredFor name ≠ [] := by
  unfold hasHooks registeredFor
  cases HookTarget.ofName? name with
  | none => simp
  | some target => simp

/-- A registration for a target that does not exist is refused, and nothing is reported. -/
theorem register_unknown {name : Text} (unknown : HookTarget.ofName? name = none) (hook : κ)
    (priority : Int) : registry.register name hook priority = throw ⟨name⟩ := by
  unfold register
  simp only [unknown]

/-- A dispatch runs the registrations of the target in their order. -/
theorem dispatch_eq (name : Text) :
    ∃ order, IsRunOrder order (registry.registeredFor name) ∧
      ∀ {ω σ ε : Type} (hooks : κ → Hook ω σ ε) (strict : Bool) (object : ω) (context : σ),
        registry.dispatch hooks strict name object context =
          runHooks strict name (runOf hooks order) object context := by
  unfold registeredFor dispatch
  cases HookTarget.ofName? name with
  | none => exact ⟨[], ⟨.refl _, .nil, fun _ => rfl⟩, fun _ _ _ _ => rfl⟩
  | some target => exact ⟨registry.ordered target, isRunOrder_mergeSort _, fun _ _ _ _ => rfl⟩

/-- A dispatch that lets failures pass runs the registrations of the target in their order. -/
theorem run_dispatch_lenient (name : Text) :
    ∃ order, IsRunOrder order (registry.registeredFor name) ∧
      ∀ {ω σ ε : Type} (hooks : κ → Hook ω σ ε) (object : ω) (context : σ)
          (records : List LogRecord),
        ((registry.dispatch hooks false name object context).run records).1 =
          let left := order.foldl (fun given one => (hooks one.hook).pass given) (object, context)
          (.ok left.1, left.2) := by
  obtain ⟨order, runs, dispatched⟩ := registry.dispatch_eq name
  refine ⟨order, runs, fun hooks object context records => ?_⟩
  rw [dispatched, run_runHooks_lenient, List.foldl_map]

variable [DecidableEq κ]

/-- Taking a hook away from a target drops its registrations; where there are none, nothing is
set. -/
theorem run_unregister_of_target {name : Text} {owner : HookTarget}
    (named : HookTarget.ofName? name = some owner) (hook : κ) (records : List LogRecord) :
    ((registry.unregister name hook).run records).1 =
      let kept := (registry.registered owner).filter fun one => one.hook ≠ hook
      if kept.length < (registry.registered owner).length then
        (true, registry.setRegistered owner kept)
      else (false, registry) := by
  unfold unregister
  simp only [named]
  split <;> rfl

/-- Taking a hook away ends its registrations for that target and no others, and says whether there
were any. -/
theorem run_unregister (name : Text) (hook : κ) (records : List LogRecord) :
    let answer := ((registry.unregister name hook).run records).1
    (answer.1 = true ↔ ∃ one ∈ registry.registeredFor name, one.hook = hook) ∧
      ∀ target, answer.2.registeredFor target =
        (registry.registeredFor target).filter fun one => !(name = target ∧ hook = one.hook) := by
  cases named : HookTarget.ofName? name with
  | none =>
    have empty : registry.registeredFor name = [] := by simp only [registeredFor, named]
    have same : ((registry.unregister name hook).run records).1 = (false, registry) := by
      unfold unregister
      simp only [named]
      rfl
    simp only [same, empty, List.not_mem_nil, false_and, exists_false, Bool.false_eq_true,
      true_and]
    intro target
    by_cases own : name = target
    · rw [← own, empty]
      rfl
    · simp [own]
  | some owner =>
    have own : registry.registeredFor name = registry.registered owner := by
      simp only [registeredFor, named]
    have shorter :
        ((registry.registered owner).filter fun one => one.hook ≠ hook).length <
            (registry.registered owner).length ↔
          ∃ one ∈ registry.registered owner, one.hook = hook := by
      rw [List.length_filter_lt_length_iff_exists]
      simp only [decide_eq_true_eq, not_not]
    rw [run_unregister_of_target registry named, own]
    by_cases removed : ∃ one ∈ registry.registered owner, one.hook = hook
    · simp only [shorter.mpr removed, ↓reduceIte]
      refine ⟨iff_of_true trivial removed, fun target => ?_⟩
      rw [registeredFor_setRegistered registry named]
      by_cases same : name = target
      · subst same
        simp [own, eq_comm]
      · simp [same]
    · simp only [mt shorter.mp removed, ↓reduceIte]
      refine ⟨iff_of_false Bool.false_ne_true removed, fun target => ?_⟩
      symm
      rw [List.filter_eq_self]
      intro one listed
      by_cases same : name = target
      · subst same
        rw [own] at listed
        have other : one.hook ≠ hook := fun hooks => removed ⟨one, listed, hooks⟩
        simp [Ne.symm other]
      · simp [same]

end HookRegistry

variable [DecidableEq κ]

/-- A call that changes which hooks are registered. -/
inductive HookCall (κ : Type) where
  /-- Registers a hook for the target of a name. -/
  | register (target : Text) (hook : κ) (priority : Int)
  /-- Takes a hook away from the target of a name. -/
  | unregister (target : Text) (hook : κ)
  /-- Takes all hooks away. -/
  | clear

namespace HookCall

/-- The registry after a call; a registration that is refused leaves it as it is. -/
def apply (registry : HookRegistry κ) : HookCall κ → Logged (HookRegistry κ)
  | register target hook priority => do
    match ← (registry.register target hook priority).run with
    | .ok changed => return changed
    | .error _ => return registry
  | unregister target hook => return (← registry.unregister target hook).2
  | clear => HookRegistry.clear

/-- The registration that a call makes for a target. -/
def made? (target : Text) : HookCall κ → Option (Registration κ)
  | register other hook priority =>
    if other = target ∧ (HookTarget.ofName? target).isSome then some ⟨priority, hook⟩ else none
  | unregister _ _ | clear => none

/-- Whether a call ends the registrations of a hook for a target. -/
def ends (target : Text) (hook : κ) : HookCall κ → Bool
  | register _ _ _ => false
  | unregister other removed => other = target ∧ removed = hook
  | clear => true

/-- The registrations for a target that calls make and no later one ends. -/
def live (target : Text) : List (HookCall κ) → List (Registration κ)
  | [] => []
  | call :: later =>
    match call.made? target with
    | some registration =>
      if later.any fun other => other.ends target registration.hook then live target later
      else registration :: live target later
    | none => live target later

/-! ## What calls leave -/

/-- What is registered for a target after a call: what the call does not end, and then what it
makes. -/
theorem registeredFor_apply (registry : HookRegistry κ) (call : HookCall κ)
    (records : List LogRecord) (target : Text) :
    ((call.apply registry).run records).1.registeredFor target =
      (registry.registeredFor target).filter (fun one => !call.ends target one.hook) ++
        (call.made? target).toList := by
  cases call with
  | register other hook priority =>
    simp only [ends, Bool.not_false, List.filter_true]
    cases named : HookTarget.ofName? other with
    | none =>
      have absent : made? target (register other hook priority) = none := by
        have refused : ¬(other = target ∧ (HookTarget.ofName? target).isSome = true) := by
          rintro ⟨rfl, known⟩
          rw [named] at known
          cases known
        exact if_neg refused
      have same : ((apply registry (register other hook priority)).run records).1 = registry := by
        unfold apply
        simp only [registry.register_unknown named]
        rfl
      rw [same, absent, Option.toList_none, List.append_nil]
    | some owner =>
      have changed : ((apply registry (register other hook priority)).run records).1 =
          registry.setRegistered owner (registry.registered owner ++ [⟨priority, hook⟩]) := by
        unfold apply HookRegistry.register
        simp only [named]
        rfl
      have own : registry.registeredFor other = registry.registered owner := by
        simp only [HookRegistry.registeredFor, named]
      rw [changed, registry.registeredFor_setRegistered named]
      by_cases same : other = target
      · subst same
        simp [made?, named, own]
      · simp [made?, same]
  | unregister other hook =>
    have after := (registry.run_unregister other hook records).2 target
    simp only [made?, Option.toList_none, List.append_nil]
    exact after
  | clear =>
    simp only [ends, made?, Bool.not_true, List.filter_false, Option.toList_none, List.append_nil]
    exact HookRegistry.registeredFor_empty target

/-- What is registered for a target after calls one after another: what none of them ends, and then
what lives of what they make. -/
theorem registeredFor_foldlM (calls : List (HookCall κ)) (registry : HookRegistry κ)
    (records : List LogRecord) (target : Text) :
    ((calls.foldlM apply registry).run records).1.registeredFor target =
      (registry.registeredFor target).filter
          (fun one => !calls.any fun call => call.ends target one.hook) ++
        live target calls := by
  induction calls generalizing registry records with
  | nil =>
    simp only [List.any_nil, Bool.not_false, List.filter_true, live, List.append_nil]
    rfl
  | cons call later ih =>
    have next : (((call :: later).foldlM apply registry).run records).1 =
        ((later.foldlM apply ((call.apply registry).run records).1).run
          ((call.apply registry).run records).2).1 := rfl
    rw [next, ih, registeredFor_apply, List.filter_append, List.filter_filter, List.append_assoc]
    congr 1
    · refine List.filter_congr fun one _ => ?_
      rw [List.any_cons, Bool.not_or, Bool.and_comm]
    · rw [live]
      cases call.made? target with
      | none => rfl
      | some registration =>
        by_cases ended : (later.any fun other => other.ends target registration.hook) = true
        · simp [ended]
        · simp [ended]

end HookCall

/-- **The hooks of a target are the registrations that live after the calls so far.** A dispatch
that lets failures pass runs each of them once, by priority and then in the order in which they were
made, whatever the hooks do. The target has hooks exactly if one lives; taking a hook away succeeds
exactly if one of its registrations lives, and ends these alone; and a registration for a target
that does not exist is refused and changes nothing. -/
theorem live_hooks_of_calls (calls : List (HookCall κ)) (records : List LogRecord) (name : Text) :
    let registry := ((calls.foldlM HookCall.apply {}).run records).1
    let live := HookCall.live name calls
    registry.registeredFor name = live ∧
      (∃ order, IsRunOrder order live ∧
        ∀ {ω σ ε : Type} (hooks : κ → Hook ω σ ε) (object : ω) (context : σ)
          (records : List LogRecord),
          ((registry.dispatch hooks false name object context).run records).1 =
            let left := order.foldl (fun given one => (hooks one.hook).pass given) (object, context)
            (.ok left.1, left.2)) ∧
      (registry.hasHooks name = true ↔ live ≠ []) ∧
      (∀ (hook : κ) (records : List LogRecord),
        let answer := ((registry.unregister name hook).run records).1
        (answer.1 = true ↔ ∃ one ∈ live, one.hook = hook) ∧
          answer.2.registeredFor name = live.filter (fun one => one.hook ≠ hook) ∧
          ∀ other ≠ name, answer.2.registeredFor other = HookCall.live other calls) ∧
      (HookTarget.ofName? name = none → ∀ (hook : κ) (priority : Int) (records : List LogRecord),
        (registry.register name hook priority).run.run records = (.error ⟨name⟩, records) ∧
          ((HookCall.register name hook priority).apply registry).run records =
            (registry, records)) := by
  intro registry live
  have holds (target : Text) : registry.registeredFor target = HookCall.live target calls := by
    have after := HookCall.registeredFor_foldlM calls {} records target
    have empty : (({} : HookRegistry κ).registeredFor target) = [] :=
      HookRegistry.registeredFor_empty target
    rwa [empty, List.filter_nil, List.nil_append] at after
  have here : registry.registeredFor name = live := holds name
  refine ⟨here, ?_, ?_, fun hook records => ?_, fun unknown hook priority records => ?_⟩
  · rw [← here]
    exact registry.run_dispatch_lenient name
  · rw [registry.hasHooks_iff, here]
  · obtain ⟨found, left⟩ := registry.run_unregister name hook records
    rw [here] at found
    refine ⟨found, ?_, fun other differs => ?_⟩
    · rw [left, here]
      exact List.filter_congr fun one _ => by simp [eq_comm]
    · rw [left, holds]
      simp [Ne.symm differs]
  · constructor
    · rw [registry.register_unknown unknown]
      rfl
    · unfold HookCall.apply
      simp only [registry.register_unknown unknown]
      rfl

end MarkdownSite
