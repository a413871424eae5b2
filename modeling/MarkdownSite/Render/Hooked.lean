import MarkdownSite.Markdown.Document
import MarkdownSite.Node.Extension
import MarkdownSite.Render.Document

/-!
# The parts of a render

A render uses a node renderer, rules for blocks and for running text, and extensions. Hooks see each
of them before it is used, in this order.
-/

namespace MarkdownSite

/-- The hooks of a host: which are registered, and what each one does. -/
structure HookSet where
  /-- The registered hooks. -/
  registry : HookRegistry HookId := {}
  /-- What the hook of a given name does. -/
  action : HookId → HookAction
  /-- A hook that fails ends the render. -/
  strict : Bool := false

/-- A computation that renders a document: it reports, hooks leave things behind in the context, and
it may fail. -/
abbrev Rendering := ExceptT RenderFailure (StateT HookContext Logged)

/-- A computation that reports and may fail, as one that renders a document. -/
def Rendering.ofLogged {ε α : Type} (failure : ε → RenderFailure) (action : ExceptT ε Logged α) :
    Rendering α := do
  match ← (action.run : Logged (Except ε α)) with
  | .ok a => return a
  | .error e => throw (failure e)

/-- Runs the hooks for a target on an object. -/
def HookSet.dispatch (hooks : HookSet) (target : Text) (object : HookObject) :
    Rendering HookObject := do
  let (result, context) ← (hooks.registry.dispatch (fun id => (hooks.action id).run id)
    hooks.strict target object (← get) : Logged _)
  set context
  match result with
  | .ok object => return object
  | .error e => throw (.hook e)

/-- What a render uses, as hooks leave it. -/
structure RenderParts where
  /-- What renders nodes. -/
  renderer : NodeRenderer
  /-- The grammar, as it is before extensions. -/
  grammar : Markdown.Grammar
  /-- The extensions, in order. -/
  extensions : List Markdown.Extension

/-- The parts that the objects left by hooks give. -/
def RenderParts.ofObjects (hardBreaks : Bool) (renderer blocks inlines extensions : HookObject) :
    Rendering RenderParts := do
  let names ← match extensions with
    | .value v _ => Rendering.ofLogged id (ExceptT.mk (pure (extensionNames v)))
    | object => throw (.extensions object.kindName)
  let extensions ← Rendering.ofLogged id (loadExtensions names)
  match renderer, blocks, inlines with
  | .renderer renderer, .blockTokenizer blockRules, .inlineTokenizer inlineRules =>
    return { renderer, grammar := { blockRules, inlineRules, hardBreaks }, extensions }
  | .renderer _, .blockTokenizer _, object => throw (.wrongKind object.kindName)
  | .renderer _, object, _ => throw (.wrongKind object.kindName)
  | object, _, _ => throw (.wrongKind object.kindName)

/-- The names of the extensions that options ask for, as a value. -/
def RenderOptions.extensionValue (options : RenderOptions) : Value :=
  .list (if options.gfmEnabled then
    Markdown.Extension.github.map fun extension => .text extension.name else [])

/-- The parts of the render of a page, after the hooks have seen them. -/
def Page.parts (page : Page) (hooks : Option HookSet) : Rendering RenderParts := do
  let hooked (target : HookTarget) (object : HookObject) : Rendering HookObject :=
    match hooks with
    | some hooks => hooks.dispatch target.name object
    | none => return object
  let grammar := Markdown.Grammar.plain page.options.breaks
  let renderer ← hooked .renderer (.renderer (NodeRenderer.ofPage page []))
  let blocks ← hooked .blockTokenizer (.blockTokenizer grammar.blockRules)
  let inlines ← hooked .inlineTokenizer (.inlineTokenizer grammar.inlineRules)
  let extensions ← hooked .extensions (.value page.options.extensionValue none)
  RenderParts.ofObjects grammar.hardBreaks renderer blocks inlines extensions

/-- The nodes of a text in Markdown, by a grammar with extensions. -/
def Markdown.read (grammar : Grammar) (extensions : List Extension) (t : Text) : List Node :=
  let grammar := extensions.foldl (fun grammar extension => extension.addTo grammar) grammar
  grammar.documentNodes (extensions.count .footnotes) t

/-- The HTML of nodes, by the rules of the extensions at hand too. -/
def RenderParts.html (parts : RenderParts) (nodes : List Node) : Rendering Text := do
  let rules := parts.renderer.rules ++ parts.extensions.flatMap Markdown.Extension.nodeRules
  let render : ExceptT RenderError Logged Text := fun records =>
    let (html, state) := (renderNodes { parts.renderer with rules } nodes).run { records }
    (html, state.records)
  Rendering.ofLogged .node render

end MarkdownSite
