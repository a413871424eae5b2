import MarkdownSite.Proofs.Log.Record
import MarkdownSite.Render.Hooked

/-!
# What a rendering gives

A rendering gives a result and records, and leaves a context behind for hooks. Renderings agree when
they give the same in every context.
-/

namespace MarkdownSite.Rendering

variable {α β ε : Type}

/-- The result of a rendering and the records after it, without the context that it leaves. -/
def outcome (x : Rendering α) (context : HookContext) (records : List LogRecord) :
    Except RenderFailure α × List LogRecord :=
  let ((result, _), after) := (x.run.run context).run records
  (result, after)

/-- The result of a rendering. -/
def result (x : Rendering α) (context : HookContext) (records : List LogRecord) :
    Except RenderFailure α :=
  (x.outcome context records).1

/-- What a rendering of two steps does: the second one only takes place if the first gives a
value. -/
theorem run_bind (x : Rendering α) (next : α → Rendering β) (context : HookContext)
    (records : List LogRecord) :
    (((x >>= next).run).run context).run records =
      match (x.run.run context).run records with
      | ((.ok a, after), reports) => (((next a).run).run after).run reports
      | ((.error e, after), reports) => ((.error e, after), reports) := by
  change (((x.run >>= fun given => ExceptT.bindCont next given).run context).run records) = _
  rw [StateT.run_bind, StateT.run_bind]
  change ((ExceptT.bindCont next ((x.run.run context).run records).1.1).run
    ((x.run.run context).run records).1.2).run ((x.run.run context).run records).2 = _
  generalize (x.run.run context).run records = given
  obtain ⟨⟨outcome, after⟩, reports⟩ := given
  cases outcome <;> rfl

/-- A report always has a result. -/
theorem result_lift (action : Logged α) (context : HookContext) (records : List LogRecord) :
    (liftM action : Rendering α).result context records = .ok (action.run records).1 := rfl

/-- Renderings that give the same result and records, whatever the contexts are. -/
def Agree (x y : Rendering α) : Prop :=
  ∀ context other records, x.outcome context records = y.outcome other records

/-- What only reports agrees with itself. -/
theorem agree_lift (action : Logged α) : Agree (liftM action) (liftM action) :=
  fun _ _ _ => rfl

/-- A given value agrees with itself. -/
theorem agree_pure (a : α) : Agree (pure a) (pure a) := fun _ _ _ => rfl

/-- A failure agrees with itself. -/
theorem agree_throw (failure : RenderFailure) :
    Agree (throw failure : Rendering α) (throw failure) := fun _ _ _ => rfl

/-- Changes of the context agree. -/
theorem agree_modify (first second : HookContext → HookContext) :
    Agree (modify first) (modify second) := fun _ _ _ => rfl

/-- Renderings one after another agree if each of them does. -/
theorem Agree.bind {x y : Rendering α} {next after : α → Rendering β} (first : Agree x y)
    (second : ∀ a, Agree (next a) (after a)) : Agree (x >>= next) (y >>= after) := by
  intro context other records
  have same := first context other records
  unfold outcome at same ⊢
  rw [run_bind, run_bind]
  generalize (x.run.run context).run records = given at same ⊢
  generalize (y.run.run other).run records = taken at same ⊢
  obtain ⟨⟨outcome, left⟩, reports⟩ := given
  obtain ⟨⟨outcome', left'⟩, reports'⟩ := taken
  obtain ⟨rfl, rfl⟩ := Prod.mk.inj same
  cases outcome with
  | ok a => exact second a left left' reports
  | error e => rfl

/-- What only reports and may fail agrees with itself. -/
theorem agree_ofLogged (failure : ε → RenderFailure) (action : ExceptT ε Logged α) :
    Agree (ofLogged failure action) (ofLogged failure action) := by
  refine (agree_lift action.run).bind fun given => ?_
  cases given with
  | ok a => exact agree_pure a
  | error e => exact agree_throw (failure e)

/-- The result of a rendering whose last step always gives what a function says. -/
theorem result_bind {x : Rendering α} {next : α → Rendering β} {last : α → Except RenderFailure β}
    (always : ∀ a context records, (next a).result context records = last a)
    (context : HookContext) (records : List LogRecord) :
    (x >>= next).result context records = x.result context records >>= last := by
  unfold result outcome
  rw [run_bind]
  generalize (x.run.run context).run records = given
  obtain ⟨⟨outcome, after⟩, reports⟩ := given
  cases outcome with
  | ok a => exact always a after reports
  | error e => rfl

/-- A computation whose value is changed renders what it did, changed. -/
theorem ofLogged_map (failure : ε → RenderFailure) (f : α → β) (action : ExceptT ε Logged α) :
    ofLogged failure (f <$> action) = f <$> ofLogged failure action := by
  unfold ofLogged
  rw [ExceptT.run_map, liftM_map, bind_map_left, map_bind]
  refine bind_congr fun given => ?_
  cases given with
  | ok a => exact (map_pure f a).symm
  | error e => rfl

end MarkdownSite.Rendering
