import MarkdownSite.Heading.Ids
import MarkdownSite.Value.Shown

/-!
# Handlers and their calls

A handler makes HTML from the content and the attributes of a node. Handlers may be replaced, so
they are called by a protocol: the content is handed over by position, the attributes by name, and
a handler that names its parameters refuses what does not fit.
-/

namespace MarkdownSite

/-- Why a node cannot be rendered. -/
inductive RenderError where
  /-- A handler is called with arguments that it does not take, or without one that it needs. -/
  | badArguments
  /-- There is no rule for nodes of this kind. -/
  | noRule (kind : Text)
  deriving DecidableEq, Repr

/-- What changes while a document is rendered. -/
structure RenderState where
  /-- The heading ids given out. -/
  headingIds : HeadingIds := {}
  /-- The records so far. -/
  records : List LogRecord := []

/-- A computation that renders. -/
abbrev RenderM := ExceptT RenderError (StateM RenderState)

/-- A computation that reports, as one that renders. -/
def RenderM.ofLogged {α : Type} (action : Logged α) : RenderM α :=
  show StateM RenderState (Except RenderError α) from fun state =>
    let (a, records) := action.run state.records
    (.ok a, { state with records })

/-- A step on the heading ids, as a computation that renders. -/
def RenderM.onIds {α : Type} (step : HeadingIds → α × HeadingIds) : RenderM α :=
  show StateM RenderState (Except RenderError α) from fun state =>
    let (a, headingIds) := step state.headingIds
    (.ok a, { state with headingIds })

instance : MonadLift Logged RenderM := ⟨RenderM.ofLogged⟩

/-- What a handler is called with. -/
structure Call where
  /-- The arguments by position. -/
  positional : List Value := []
  /-- The arguments by name. -/
  named : Entries := []
  deriving Repr

/-- Makes HTML from the content and the attributes of a node. -/
abbrev Handler := Call → RenderM Text

/-- The parameters of a handler. -/
structure Parameters where
  /-- Those that must be given, in order. -/
  required : List Text
  /-- Those that may be left out, in order, after the others. -/
  optional : List Text := []
  /-- Whether arguments with other names are let pass. -/
  passes : Bool := false

/-- The parameter that stands for the renderer itself; it is always given. -/
def selfParameter : Text := "renderer"

/-- The arguments by parameter. A call that gives too many, gives one twice, gives one that is
unknown or leaves out one that is required has none. -/
def Parameters.bind (parameters : Parameters) (call : Call) : Except RenderError Entries :=
  let names := parameters.required ++ parameters.optional
  let placed := names.zip call.positional
  let isPlaced (name : Text) : Bool := name == selfParameter || (placed.lookup name).isSome
  if call.positional.length > names.length then .error .badArguments
  else if call.named.any fun (name, _) => isPlaced name then .error .badArguments
  else if !parameters.passes && call.named.any fun (name, _) => !names.contains name then
    .error .badArguments
  else
    let bound := placed ++ call.named
    if parameters.required.any fun name => (bound.lookup name).isNone then .error .badArguments
    else .ok bound

/-- The text of an argument; arguments of other kinds are refused. -/
def Value.asText : Value → Except RenderError Text
  | .text t => .ok t
  | _ => .error .badArguments

/-- The argument of a parameter, null if it is left out. -/
def argument (bound : Entries) (name : Text) : Value := (bound.get? name).getD .null

/-- The text argument of a parameter. -/
def textArgument (bound : Entries) (name : Text) : Except RenderError Text :=
  (argument bound name).asText

/-- The text argument of a parameter that may be left out; what does not count as true is the same
as nothing. -/
def optionalText (bound : Entries) (name : Text) : Except RenderError Text :=
  let v := argument bound name
  if v.isTruthy then v.asText else .ok []

end MarkdownSite
