import MarkdownSite.Hooks.Registry
import MarkdownSite.Markdown.Grammar
import MarkdownSite.Node.Render

/-!
# Actions of hooks

What hooks do to the objects of a render: they look at the context, change lists and rules, replace
handlers, or put a value of their own in the place of an object.
-/

namespace MarkdownSite

/-- What names a hook. -/
abbrev HookId := Text

/-- What a hook is given. -/
inductive HookObject where
  /-- What renders nodes. -/
  | renderer (r : NodeRenderer)
  /-- The rules for blocks. -/
  | blockTokenizer (rules : List Markdown.BlockRule)
  /-- The rules for running text. -/
  | inlineTokenizer (rules : List Markdown.InlineRule)
  /-- A value, and the hook that put it in place, if one has. -/
  | value (v : Value) (giver : Option HookId)

/-- The name of the kind of an object, as messages give it. -/
def HookObject.kindName : HookObject → Text
  | renderer _ => "NodeRenderer"
  | blockTokenizer _ => "BlockParser"
  | inlineTokenizer _ => "InlineParser"
  | value v _ => v.kindName

/-- What hooks know of a render, and what they leave behind. -/
structure HookContext where
  /-- The options of the render. -/
  options : RenderOptions := {}
  /-- The site. -/
  site : Site := {}
  /-- The path of the document, null if it has none. -/
  documentPath : Value := .null
  /-- Values that hooks of one render share. -/
  shared : Entries := []
  /-- What hooks have noted, in order. -/
  seen : List Value := []
  /-- The values that hooks put in place of objects, as later hooks have left them. -/
  given : List (HookId × Value) := []

/-- The errors that hooks fail with, apart from their texts. -/
inductive HookErrorKind where
  /-- The hook itself reports what is wrong. -/
  | raised
  /-- The object does not have what the hook asks of it. -/
  | noMember
  /-- There is no such item in a list. -/
  | noItem
  deriving DecidableEq, Repr

/-- What a hook does. -/
inductive HookAction where
  /-- Fails with a message. -/
  | fail (message : Text)
  /-- Notes a value. -/
  | note (v : Value)
  /-- Notes the path of the document. -/
  | notePath
  /-- Notes the site. -/
  | noteSite
  /-- Notes the value of an option. -/
  | noteOption (name : Text)
  /-- Notes the object. -/
  | noteObject
  /-- Shares a value. -/
  | setShared (key : Text) (v : Value)
  /-- Notes a shared value, or the other one if there is none. -/
  | noteShared (key : Text) (other : Value)
  /-- Puts a value at the end of a list. -/
  | append (v : Value)
  /-- Takes the first such value out of a list. -/
  | remove (v : Value)
  /-- Puts a value in the place of the object. -/
  | replace (v : Value)
  /-- Sets a handler, which may call the one before it. -/
  | setHandler (name : Text) (make : Option Handler → Handler)
  /-- Notes whether there is a handler. -/
  | noteHandler (name : Text)
  /-- Takes away a rule. -/
  | removeRule (name : Text)

namespace HookContext

/-- The context in which a value has been noted. -/
def withSeen (context : HookContext) (v : Value) : HookContext :=
  { context with seen := context.seen ++ [v] }

/-- The context in which a value that a hook has put in place has changed. -/
def withGiven (context : HookContext) (giver : Option HookId) (v : Value) : HookContext :=
  match giver with
  | some id => { context with given := (id, v) :: context.given }
  | none => context

/-- The value of an option by the name of its field, or of what follows from options. -/
def optionValue? (context : HookContext) (name : Text) : Option Value :=
  if name = String.toList "gfm_enabled" then some (.bool context.options.gfmEnabled)
  else
    (OptionName.ofFieldName? name).map fun option =>
      (Settings.get? context.options.toSettings option).getD .null

end HookContext

/-- An object does not have what a hook asks of it. -/
def missingMember (kindName member : Text) : HookFault HookErrorKind :=
  ⟨.noMember, "'" ++ kindName ++ "' object has no attribute '" ++ member ++ "'"⟩

/-- The list without the first value that equals `v`; `none` if there is none. -/
def removeValue? (v : Value) (items : List Value) : Option (List Value) :=
  Markdown.eraseFirst? (fun item => item.same v) items

/-- The object without the rule of the given name, or why it cannot be taken away. -/
def HookObject.removeRule (object : HookObject) (name : Text) :
    Except (HookFault HookErrorKind) HookObject :=
  let erase {α : Type} (ruleName : α → Text) (rules : List α) :
      Except (HookFault HookErrorKind) (List α) :=
    match Markdown.eraseFirst? (fun rule => ruleName rule == name) rules with
    | some rules => .ok rules
    | none => .error ⟨.noItem, "list.remove(x): x not in list"⟩
  match object with
  | .blockTokenizer rules => (erase Markdown.BlockRule.name rules).map .blockTokenizer
  | .inlineTokenizer rules => (erase Markdown.InlineRule.name rules).map .inlineTokenizer
  | object => .error (missingMember object.kindName "rules")

/-- What the hook of the given name does by its action. -/
def HookAction.run (action : HookAction) (id : HookId) :
    Hook HookObject HookContext HookErrorKind :=
  fun object context =>
    let done (context : HookContext) : HookStep HookObject HookContext HookErrorKind :=
      ⟨object, context, .done⟩
    let noted (v : Value) := done (context.withSeen v)
    let failed (fault : HookFault HookErrorKind) : HookStep HookObject HookContext HookErrorKind :=
      ⟨object, context, .failed fault⟩
    let changed (giver : Option HookId) (v : Value) :
        HookStep HookObject HookContext HookErrorKind :=
      ⟨.value v giver, context.withGiven giver v, .done⟩
    match action with
    | .fail message => failed ⟨.raised, message⟩
    | .note v => noted v
    | .notePath => noted context.documentPath
    | .noteSite => noted (.map context.site.toFields)
    | .noteOption name =>
      match context.optionValue? name with
      | some v => noted v
      | none => failed (missingMember "RenderOptions" name)
    | .noteObject =>
      noted (match object with
        | .value v _ => v
        | _ => .null)
    | .setShared key v => done { context with shared := context.shared.insert key v }
    | .noteShared key other => noted ((context.shared.get? key).getD other)
    | .append v =>
      match object with
      | .value (.list items) giver => changed giver (.list (items ++ [v]))
      | _ => failed ⟨.raised, "append: not a list"⟩
    | .remove v =>
      match object with
      | .value (.list items) giver =>
        match removeValue? v items with
        | some items => changed giver (.list items)
        | none => failed ⟨.raised, "remove: not found"⟩
      | _ => failed ⟨.raised, "remove: not found"⟩
    | .replace .null => done context
    | .replace v =>
      let given := (context.given.lookup id).getD v
      ⟨object, context, .replaced (.value given (some id))⟩
    | .setHandler name make =>
      match object with
      | .renderer r =>
        let handlers := r.handlers.set name (make (r.handlers.get? name))
        ⟨.renderer { r with handlers }, context, .done⟩
      | object => failed (missingMember object.kindName "set_handler")
    | .noteHandler name =>
      match object with
      | .renderer r => noted (.bool (r.handlers.get? name).isSome)
      | object => failed (missingMember object.kindName "get_handler")
    | .removeRule name =>
      match object.removeRule name with
      | .ok object => ⟨object, context, .done⟩
      | .error fault => failed fault

end MarkdownSite
