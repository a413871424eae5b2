import MarkdownSite.Log.Record

/-!
# Results and reports

A computation that reports gives the same result whatever has been reported before it.
-/

namespace MarkdownSite

variable {α β ε : Type}

/-- What a computation gives does not depend on the records before it. -/
def Steady (action : Logged α) : Prop := ∀ records, (action.run records).1 = (action.run []).1

/-- A given result does not depend on records. -/
theorem steady_pure (a : α) : Steady (pure a) := fun _ => rfl

/-- A report does not depend on records. -/
theorem steady_report (level : LogLevel) (source : LogSource) (message : Text) :
    Steady (report level source message) := fun _ => rfl

/-- One computation after another does not depend on records if each does not. -/
theorem Steady.bind {action : Logged α} {next : α → Logged β} (first : Steady action)
    (second : ∀ a, Steady (next a)) : Steady (action >>= next) := by
  intro records
  change ((next (action.run records).1).run (action.run records).2).1 =
    ((next (action.run []).1).run (action.run []).2).1
  rw [first records, second _ (action.run records).2, second _ (action.run []).2]

/-! ## Computations that may fail -/

/-- What a computation that may fail gives, whatever has been reported before it. -/
def Gives (action : ExceptT ε Logged α) (result : Except ε α) : Prop :=
  ∀ records, (action.run.run records).1 = result

/-- A computation gives one result. -/
theorem Gives.unique {action : ExceptT ε Logged α} {first second : Except ε α}
    (one : Gives action first) (other : Gives action second) : first = second :=
  (one []).symm.trans (other [])

/-- A given value is what it gives. -/
theorem gives_pure (a : α) : Gives (pure a : ExceptT ε Logged α) (.ok a) := fun _ => rfl

/-- A failure is what it gives. -/
theorem gives_throw (e : ε) : Gives (throw e : ExceptT ε Logged α) (.error e) := fun _ => rfl

/-- What may fail without a report gives what it is. -/
theorem gives_except (result : Except ε α) :
    Gives (liftM result : ExceptT ε Logged α) result := fun _ => rfl

section Bind

variable {action : ExceptT ε Logged α} {next : α → ExceptT ε Logged β}

/-- After a computation that gives a value the next one takes place. -/
theorem Gives.bind_ok {a : α} {result : Except ε β} (first : Gives action (.ok a))
    (second : Gives (next a) result) : Gives (action >>= next) result := by
  intro records
  have given := first records
  change ((ExceptT.bindCont next (action.run.run records).1).run
    (action.run.run records).2).1 = result
  rw [given]
  exact second _

/-- After a computation that fails no other takes place. -/
theorem Gives.bind_error {e : ε} (first : Gives action (.error e)) :
    Gives (action >>= next) (.error e) := by
  intro records
  have given := first records
  change ((ExceptT.bindCont next (action.run.run records).1).run
    (action.run.run records).2).1 = .error e
  rw [given]
  rfl

end Bind

end MarkdownSite
