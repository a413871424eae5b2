import Mathlib.Logic.Basic

/-!
# Computations that end alike

A computation that may fail ends with a value or with an error. Two of them end alike if both fail
with one error or both give values that go together.
-/

namespace MarkdownSite

variable {α β ε : Type} {exact : Prop}

/-- Two steps give a value exactly if the first one gives one and the second one gives it from
there. -/
theorem bind_eq_ok {first : Except ε α} {next : α → Except ε β} {b : β} :
    first >>= next = .ok b ↔ ∃ a, first = .ok a ∧ next a = .ok b := by
  cases first <;> simp [bind, Except.bind]

/-- Two values are the same if `exact`. -/
abbrev SameIf (exact : Prop) (first second : α) : Prop := exact → first = second

/-- Two computations end alike: both fail with one error, or both give values that are related. -/
def EndAlike (related : α → β → Prop) : Except ε α → Except ε β → Prop
  | .ok first, .ok second => related first second
  | .error first, .error second => first = second
  | .ok _, .error _ | .error _, .ok _ => False

namespace EndAlike

/-- Each end is like itself. -/
theorem refl (x : Except ε α) : EndAlike (SameIf exact) x x := by
  cases x with
  | ok a => exact fun _ => rfl
  | error e => exact Eq.refl e

/-- Ends that are exactly alike are the same. -/
theorem eq {x y : Except ε α} (alike : EndAlike (SameIf exact) x y) (exactly : exact) :
    x = y := by
  cases x with
  | ok a =>
    cases y with
    | ok b => exact congrArg Except.ok (alike exactly)
    | error f => exact alike.elim
  | error e =>
    cases y with
    | ok b => exact alike.elim
    | error f => exact congrArg Except.error alike

/-- Of ends that are alike one is a failure exactly if the other is the same failure. -/
theorem eq_error_iff {related : α → β → Prop} {x : Except ε α} {y : Except ε β}
    (alike : EndAlike related x y) (e : ε) : x = .error e ↔ y = .error e := by
  cases x with
  | ok a =>
    cases y with
    | ok b => exact iff_of_false nofun nofun
    | error f => exact alike.elim
  | error f =>
    cases y with
    | ok b => exact alike.elim
    | error g =>
      cases (show f = g from alike)
      rw [Except.error.injEq, Except.error.injEq]

/-- Ends whose values go together by `f` are the same after `f`. -/
theorem map_eq {f : α → β} {x : Except ε α} {y : Except ε β}
    (alike : EndAlike (fun a b => f a = b) x y) : x.map f = y := by
  cases x with
  | ok a =>
    cases y with
    | ok b => exact congrArg Except.ok alike
    | error e => exact alike.elim
  | error e =>
    cases y with
    | ok b => exact alike.elim
    | error f => exact congrArg Except.error alike

/-- Ends that are alike are so if values that go together do so in another way. -/
theorem imp {related other : α → β → Prop} {x : Except ε α} {y : Except ε β}
    (alike : EndAlike related x y) (weaken : ∀ a b, related a b → other a b) :
    EndAlike other x y := by
  cases x with
  | ok a =>
    cases y with
    | ok b => exact weaken a b alike
    | error e => exact alike.elim
  | error e =>
    cases y with
    | ok b => exact alike.elim
    | error f => exact alike

/-- Ends that are alike stay so when failures get another form. -/
theorem mapError {ε' : Type} {related : α → β → Prop} {x : Except ε α} {y : Except ε β}
    (alike : EndAlike related x y) (form : ε → ε') :
    EndAlike related (x.mapError form) (y.mapError form) := by
  cases x with
  | ok a =>
    cases y with
    | ok b => exact alike
    | error f => exact alike.elim
  | error e =>
    cases y with
    | ok b => exact alike.elim
    | error f => exact congrArg form alike

end EndAlike

end MarkdownSite
