import MarkdownSite.Log.Record

/-!
# Hooks

Before a render, hooks are run on the objects that it is about to use. They are registered for a
target with a priority; hooks of one target run in ascending priority, and those of equal priority
in the order of their registration.
-/

namespace MarkdownSite

/-- What hooks can be registered for. -/
inductive HookTarget where
  | renderer
  | blockTokenizer
  | inlineTokenizer
  | extensions
  deriving DecidableEq, Repr

namespace HookTarget

/-- All targets. -/
def all : List HookTarget := [renderer, blockTokenizer, inlineTokenizer, extensions]

/-- The name of a target. -/
def name : HookTarget → Text
  | renderer => "renderer"
  | blockTokenizer => "block_tokenizer"
  | inlineTokenizer => "inline_tokenizer"
  | extensions => "extensions"

/-- The target of that name. -/
def ofName? (t : Text) : Option HookTarget := all.find? fun target => target.name == t

end HookTarget

/-- There is no target of this name. -/
structure UnknownTarget where
  /-- The name. -/
  name : Text
  deriving DecidableEq, Repr

/-- The text of the error. -/
def UnknownTarget.message (e : UnknownTarget) : Text :=
  "Unknown hook target '" ++ e.name ++ "'. Expected one of: "
    ++ Text.join ", " (HookTarget.all.map HookTarget.name)

/-- A hook that is registered. -/
structure Registration (κ : Type) where
  /-- Hooks with a lower one run earlier. -/
  priority : Int
  /-- The hook. -/
  hook : κ
  deriving DecidableEq, Repr

/-- The registered hooks of each target that has had one, targets and hooks in order of
registration. -/
structure HookRegistry (κ : Type) where
  /-- The registrations by target. -/
  entries : List (HookTarget × List (Registration κ)) := []
  deriving Repr

namespace HookRegistry

variable {κ : Type}

/-- The priority of a hook that is registered without one. -/
def defaultPriority : Int := 100

/-- The hooks registered for a target, in order of registration. -/
def registered (registry : HookRegistry κ) (target : HookTarget) : List (Registration κ) :=
  (registry.entries.lookup target).getD []

/-- The registry with other hooks for a target. -/
def setRegistered (registry : HookRegistry κ) (target : HookTarget)
    (registrations : List (Registration κ)) : HookRegistry κ where
  entries :=
    if (registry.entries.lookup target).isSome then
      registry.entries.map fun (t, old) => (t, if t = target then registrations else old)
    else registry.entries ++ [(target, registrations)]

/-- The registry with one more hook for the target of the given name. -/
def register (registry : HookRegistry κ) (targetName : Text) (hook : κ) (priority : Int) :
    ExceptT UnknownTarget Logged (HookRegistry κ) := do
  match HookTarget.ofName? targetName with
  | none => throw ⟨targetName⟩
  | some target =>
    debug .hooks ("Registered hook for '" ++ targetName ++ "' with priority "
      ++ Text.ofInt priority)
    return registry.setRegistered target (registry.registered target ++ [⟨priority, hook⟩])

/-- Takes a hook away from the target of the given name, all its registrations together: whether
there were any, and the registry without them. -/
def unregister [DecidableEq κ] (registry : HookRegistry κ) (targetName : Text) (hook : κ) :
    Logged (Bool × HookRegistry κ) := do
  match HookTarget.ofName? targetName with
  | none => return (false, registry)
  | some target =>
    let before := registry.registered target
    let kept := before.filter fun registration => registration.hook ≠ hook
    if kept.length < before.length then
      debug .hooks ("Unregistered hook from '" ++ targetName ++ "'")
      return (true, registry.setRegistered target kept)
    return (false, registry)

/-- Whether the target of the given name has hooks. -/
def hasHooks (registry : HookRegistry κ) (targetName : Text) : Bool :=
  match HookTarget.ofName? targetName with
  | some target => !(registry.registered target).isEmpty
  | none => false

/-- The registry without hooks. -/
def clear : Logged (HookRegistry κ) := do
  debug .hooks "Cleared all hooks"
  return {}

/-- The hooks of a target in the order in which they run. -/
def ordered (registry : HookRegistry κ) (target : HookTarget) : List (Registration κ) :=
  (registry.registered target).mergeSort fun a b => a.priority ≤ b.priority

end HookRegistry

/-! ## Dispatch -/

/-- What a hook fails with: an error of the host. Errors may differ and have the same text. -/
structure HookFault (ε : Type) where
  /-- The error. -/
  error : ε
  /-- Its text. -/
  message : Text
  deriving DecidableEq, Repr

/-- How a hook ends. -/
inductive HookResult (ω ε : Type) where
  /-- The object stays. -/
  | done
  /-- Another object takes its place. -/
  | replaced (object : ω)
  /-- The hook fails. -/
  | failed (fault : HookFault ε)

/-- What a hook does: the object and the context as it leaves them, and how it ends. -/
structure HookStep (ω σ ε : Type) where
  /-- The object that the hook was given, as it leaves it. -/
  object : ω
  /-- The context as it leaves it. -/
  context : σ
  /-- How it ends. -/
  result : HookResult ω ε

/-- A hook: it is given an object and a context. -/
abbrev Hook (ω σ ε : Type) := ω → σ → HookStep ω σ ε

/-- A hook fails where no failure is let pass. -/
structure HookError (ε : Type) where
  /-- The name of the target. -/
  target : Text
  /-- What the hook fails with. -/
  cause : HookFault ε
  deriving DecidableEq, Repr

/-- The text of the error. -/
def HookError.message {ε : Type} (e : HookError ε) : Text :=
  "Hook failed at '" ++ e.target ++ "': " ++ e.cause.message

/-- Runs hooks one after another: the last object, unless a failure ends the run, and the context.
A hook that fails is reported; it ends the run only if `strict`. -/
def runHooks {ω σ ε : Type} (strict : Bool) (target : Text) :
    List (Int × Hook ω σ ε) → ω → σ → Logged (Except (HookError ε) ω × σ)
  | [], object, context => return (.ok object, context)
  | (priority, hook) :: rest, object, context => do
    let step := hook object context
    match step.result with
    | .done => runHooks strict target rest step.object step.context
    | .replaced object => runHooks strict target rest object step.context
    | .failed fault =>
      report .error .hooks ("Hook failed at '" ++ target ++ "' with priority "
        ++ Text.ofInt priority ++ ": " ++ fault.message)
      if strict then return (.error ⟨target, fault⟩, step.context)
      runHooks strict target rest step.object step.context

/-- Runs the hooks of the target of the given name; a target that does not exist has none. `hooks`
says what each registered hook does. -/
def HookRegistry.dispatch {κ ω σ ε : Type} (registry : HookRegistry κ) (hooks : κ → Hook ω σ ε)
    (strict : Bool) (targetName : Text) (object : ω) (context : σ) :
    Logged (Except (HookError ε) ω × σ) :=
  match HookTarget.ofName? targetName with
  | none => return (.ok object, context)
  | some target =>
    let run := (registry.ordered target).map fun registration =>
      (registration.priority, hooks registration.hook)
    runHooks strict targetName run object context

end MarkdownSite
