import MarkdownSite.Hooks.Action
import MarkdownSite.Options.External
import MarkdownSite.Sanitizer.Policy
import MarkdownSite.Value.Shown

/-!
# Documents to render

What a host hands over for a render, and why a render fails: no text of a document makes it fail; a
host that hands over what cannot be used does.
-/

namespace MarkdownSite

/-- A document as a host hands it over. -/
structure Document where
  /-- The Markdown text. -/
  text : Value := .text []
  /-- The path of its file, null if it is not known. -/
  path : Value := .null
  deriving Repr

/-- There is no document in a value of this kind. -/
structure NoDocument where
  /-- The name of the kind. -/
  kindName : Text
  deriving DecidableEq, Repr

/-- The text of the error. -/
def NoDocument.message (e : NoDocument) : Text :=
  "Expected a RenderDocument, mapping or str, got " ++ e.kindName

/-- The document that a value stands for: a text, or a mapping with a text and a path. -/
def Document.ofValue : Value → Except NoDocument Document
  | .text t => .ok { text := .text t }
  | .map entries =>
    .ok { text := ((Entries.get? entries "text").getD .null).orElse (.text [])
          path := (Entries.get? entries "path").getD .null }
  | v => .error ⟨v.kindName⟩

/-! ## Failures -/

/-- Why a render fails. -/
inductive RenderFailure where
  /-- There is no document. -/
  | document (e : NoDocument)
  /-- The options cannot be used. -/
  | options (e : OptionError)
  /-- A hook fails where no failure is let pass. -/
  | hook (e : HookError HookErrorKind)
  /-- The extensions are not given as a list of names. -/
  | extensions (kindName : Text)
  /-- A value of this kind stands where a text, a path or a part of the renderer is needed. -/
  | wrongKind (kindName : Text)
  /-- The options of the sanitizer give no policy. -/
  | policy (e : Sanitizer.PolicyError)
  /-- A node cannot be rendered. -/
  | node (e : RenderError)
  deriving DecidableEq, Repr

/-! ## Extensions by name

A render takes its extensions from a list of names, which hooks may change. A name that is not known
is reported and skipped. -/

/-- The names that a value gives: the items of a list, the keys of a mapping, the characters of a
text. -/
def extensionNames : Value → Except RenderFailure (List Value)
  | .list items => .ok items
  | .map entries => .ok (entries.map fun (key, _) => .text key)
  | .text t => .ok (t.map fun c => .text [c])
  | v => .error (.extensions v.kindName)

/-- Reports that a name is not known. -/
def reportUnknown (name : Value) : Logged Unit :=
  let reason : Text := match name with
    | .text _ => []
    | v => ": '" ++ v.kindName ++ "' object has no attribute 'rsplit'"
  warn .documents ("Skipping unknown mistune plugin " ++ name.shown ++ reason)

/-- The extensions of the given names, in order. -/
def loadExtensions : List Value → ExceptT RenderFailure Logged (List Markdown.Extension)
  | [] => return []
  | .list _ :: _ => throw (.extensions "list")
  | .map _ :: _ => throw (.extensions "dict")
  | name :: rest => do
    let known := match name with
      | .text t => Markdown.Extension.ofName? t
      | _ => none
    match known with
    | some extension => return extension :: (← loadExtensions rest)
    | none =>
      reportUnknown name
      loadExtensions rest

end MarkdownSite
