import MarkdownSite.Node.Extension
import MarkdownSite.Node.Render
import MarkdownSite.Proofs.Value.Entries

/-!
# Runs of renderings

A rendering takes a state to a result and a further state. The equations here say what each way to
build a rendering does to both, and which renderings come one after another for a node. The default
handlers other than that for headings never make the table of heading ids forget an id.
-/

namespace MarkdownSite

variable {α β : Type}

/-- What a rendering gives from a state, and the state it leaves. -/
def RenderM.runOn (x : RenderM α) (s : RenderState) : Except RenderError α × RenderState :=
  (ExceptT.run x).run s

namespace RenderM

/-- A given result changes nothing. -/
@[simp]
theorem runOn_pure (a : α) (s : RenderState) : (pure a : RenderM α).runOn s = (.ok a, s) := rfl

/-- The second of two renderings starts where the first succeeds. -/
theorem runOn_bind (x : RenderM α) (f : α → RenderM β) (s : RenderState) :
    (x >>= f).runOn s =
      match x.runOn s with
      | (.ok a, s') => (f a).runOn s'
      | (.error e, s') => (.error e, s') := by
  change (ExceptT.bindCont f (x.runOn s).1) (x.runOn s).2 = _
  cases x.runOn s with
  | mk result s' =>
    cases result with
    | ok a => rfl
    | error e => rfl

/-- A computation that may fail changes nothing. -/
@[simp]
theorem runOn_except (x : Except RenderError α) (s : RenderState) :
    (liftM x : RenderM α).runOn s = (x, s) := rfl

/-- A step on the heading ids succeeds and changes them only. -/
@[simp]
theorem runOn_onIds (step : HeadingIds → α × HeadingIds) (s : RenderState) :
    (onIds step).runOn s =
      (.ok (step s.headingIds).1, { s with headingIds := (step s.headingIds).2 }) := rfl

/-- Where two renderings succeed one after another, each does. -/
theorem runOn_bind_ok {x : RenderM α} {f : α → RenderM β} {s s' : RenderState} {b : β}
    (ran : (x >>= f).runOn s = (.ok b, s')) :
    ∃ a middle, x.runOn s = (.ok a, middle) ∧ (f a).runOn middle = (.ok b, s') := by
  rw [runOn_bind] at ran
  cases first : x.runOn s with
  | mk result middle =>
    rw [first] at ran
    cases result with
    | ok a => exact ⟨a, middle, rfl, ran⟩
    | error e => cases ran

/-- Where a computation that may fail is followed by a rendering, it has not failed. -/
theorem runOn_except_bind_ok {x : Except RenderError α} {f : α → RenderM β} {s s' : RenderState}
    {b : β} (ran : (liftM x >>= f).runOn s = (.ok b, s')) :
    ∃ a, x = .ok a ∧ (f a).runOn s = (.ok b, s') := by
  obtain ⟨a, middle, first, second⟩ := runOn_bind_ok ran
  rw [runOn_except] at first
  obtain ⟨result, same⟩ := Prod.mk.inj first
  cases same
  exact ⟨a, result, second⟩

end RenderM

/-! ## Calls of handlers -/

/-- The arguments of a call that binds are those by position and then those by name. -/
theorem Parameters.bind_eq_ok {parameters : Parameters} {call : Call} {bound : Entries}
    (binds : parameters.bind call = .ok bound) :
    bound = (parameters.required ++ parameters.optional).zip call.positional ++ call.named := by
  unfold Parameters.bind at binds
  dsimp only at binds
  split at binds
  · cases binds
  split at binds
  · cases binds
  split at binds
  · cases binds
  split at binds
  · cases binds
  · cases binds
    rfl

/-- A handler that succeeds has bound its arguments. -/
theorem runOn_handler_ok {parameters : Parameters} {body : Entries → RenderM Text} {call : Call}
    {s s' : RenderState} {html : Text}
    (ran : (handler parameters body call).runOn s = (.ok html, s')) :
    (body ((parameters.required ++ parameters.optional).zip call.positional ++ call.named)).runOn
      s = (.ok html, s') := by
  obtain ⟨bound, binds, rest⟩ := RenderM.runOn_except_bind_ok ran
  rwa [← Parameters.bind_eq_ok binds]

/-- An argument that comes first plays no part for another name. -/
theorem argument_cons_of_ne {name other : Text} (differ : name ≠ other) (v : Value)
    (others : Entries) : argument ((other, v) :: others) name = argument others name := by
  rw [argument, argument, Entries.get?, Entries.get?, List.lookup_cons, beq_false_of_ne differ]

/-- A handler of the content alone makes its HTML of the text that it is called with. -/
theorem runOn_contentHandler_ok {body : Text → Text} {content : Text} {named : Entries}
    {s s' : RenderState} {html : Text}
    (ran : (contentHandler body { positional := [.text content], named }).runOn s =
      (.ok html, s')) : html = body content := by
  cases runOn_handler_ok ran
  rfl

/-- A handler without parameters makes its own HTML. -/
theorem runOn_constantHandler_ok {whole : Text} {call : Call} {s s' : RenderState} {html : Text}
    (ran : (constantHandler whole call).runOn s = (.ok html, s')) : html = whole := by
  cases runOn_handler_ok ran
  rfl

/-! ## The ways in which a node is rendered -/

/-- The handler for a kind, or else its rule. -/
def NodeRenderer.handlerFor? (r : NodeRenderer) (kind : Text) : Option Handler :=
  (r.handlers.get? kind).or (r.rules.get? kind)

/-- Whether a node is handed over as an address that stands as text, without its inside. -/
def NodeRenderer.takesAddress (r : NodeRenderer) (node : Node) : Bool :=
  (r.handlers.get? node.kind).isSome && node.kind == "link" && node.isAutolink

/-- What the handler of an autolink is called with. -/
def Node.addressCall (node : Node) : Call where
  positional := [.text (renormalize (node.autolinkText?.getD []))]
  named := node.autolinkAttributes

/-- A node without handler and rule fails, an autolink is handed over, and for every other node the
inside comes first. -/
theorem renderNode_eq (r : NodeRenderer) (node : Node) :
    renderNode r node =
      match r.handlerFor? node.kind with
      | none => throw (.noRule node.kind)
      | some handle =>
        if r.takesAddress node then handle node.addressCall else renderContent r handle node := by
  rw [renderNode]
  cases handled : r.handlers.get? node.kind with
  | none =>
    cases ruled : r.rules.get? node.kind with
    | none => simp [NodeRenderer.handlerFor?, handled, ruled]
    | some rule => simp [NodeRenderer.handlerFor?, NodeRenderer.takesAddress, handled, ruled]
  | some handle =>
    simp only [NodeRenderer.handlerFor?, handled, Option.some_or, NodeRenderer.takesAddress,
      Option.isSome_some, Bool.true_and]
    by_cases link : node.kind = "link".toList
    · rw [if_pos link]
      cases address : node.autolinkText? with
      | none => simp [Node.isAutolink, address]
      | some text => simp [Node.isAutolink, Node.addressCall, address, link]
    · have other : (node.kind == "link".toList) = false := beq_false_of_ne link
      rw [if_neg link]
      simp only [other, Bool.false_and, Bool.false_eq_true, ↓reduceIte]

/-- A node without nodes inside does not stand for an address. -/
theorem takesAddress_of_children (r : NodeRenderer) (node : Node) (empty : node.children = []) :
    r.takesAddress node = false := by
  have plain : node.isAutolink = false := by
    unfold Node.isAutolink Node.autolinkText?
    rw [empty]
    split <;> rfl
  rw [NodeRenderer.takesAddress, plain, Bool.and_false]

/-- Only links are handed over as addresses. -/
theorem kind_of_takesAddress {r : NodeRenderer} {node : Node}
    (address : r.takesAddress node = true) : node.kind = "link" := by
  simp only [NodeRenderer.takesAddress, Bool.and_eq_true, beq_iff_eq] at address
  exact address.1.2

/-- A node that is rendered has a handler, which is called for it. -/
theorem runOn_renderNode_ok {r : NodeRenderer} {node : Node} {s s' : RenderState} {html : Text}
    (ran : (renderNode r node).runOn s = (.ok html, s')) :
    ∃ handle, r.handlerFor? node.kind = some handle ∧
      (if r.takesAddress node then handle node.addressCall
        else renderContent r handle node).runOn s = (.ok html, s') := by
  rw [renderNode_eq] at ran
  cases handled : r.handlerFor? node.kind with
  | none =>
    rw [handled] at ran
    cases ran
  | some handle =>
    rw [handled] at ran
    exact ⟨handle, rfl, ran⟩

/-- The handler of a node without content is called with its attributes. -/
theorem runOn_leaf_ok {r : NodeRenderer} {kind : Text} {attributes : Entries} {s s' : RenderState}
    {html : Text} (ran : (renderNode r (.leaf kind attributes)).runOn s = (.ok html, s')) :
    ∃ handle, r.handlerFor? kind = some handle ∧
      (handle { named := attributes }).runOn s = (.ok html, s') := by
  obtain ⟨handle, handled, called⟩ := runOn_renderNode_ok ran
  rw [takesAddress_of_children _ _ rfl, if_neg (by decide), renderContent] at called
  exact ⟨handle, handled, called⟩

/-- The handler of a node whose content is text is called with this and its attributes. -/
theorem runOn_raw_ok {r : NodeRenderer} {kind content : Text} {attributes : Entries}
    {s s' : RenderState} {html : Text}
    (ran : (renderNode r (.raw kind attributes content)).runOn s = (.ok html, s')) :
    ∃ handle, r.handlerFor? kind = some handle ∧
      (handle { positional := [.text content], named := attributes }).runOn s =
        (.ok html, s') := by
  obtain ⟨handle, handled, called⟩ := runOn_renderNode_ok ran
  rw [takesAddress_of_children _ _ rfl, if_neg (by decide), renderContent] at called
  exact ⟨handle, handled, called⟩

/-- The handler of a node with nodes inside is called with their HTML and its attributes, unless the
node is an address that is handed over. -/
theorem runOn_parent_ok {r : NodeRenderer} {kind : Text} {attributes : Entries}
    {children : List Node} {s s' : RenderState} {html : Text}
    (ran : (renderNode r (.parent kind attributes children)).runOn s = (.ok html, s')) :
    ∃ handle, r.handlerFor? kind = some handle ∧
      ((r.takesAddress (.parent kind attributes children) = true ∧
          (handle (Node.parent kind attributes children).addressCall).runOn s = (.ok html, s')) ∨
        ∃ inside middle, (renderNodes r children).runOn s = (.ok inside, middle) ∧
          (handle { positional := [.text inside], named := attributes }).runOn middle =
            (.ok html, s')) := by
  obtain ⟨handle, handled, called⟩ := runOn_renderNode_ok ran
  refine ⟨handle, handled, ?_⟩
  by_cases address : r.takesAddress (.parent kind attributes children) = true
  · rw [if_pos address] at called
    exact .inl ⟨address, called⟩
  · rw [if_neg address, renderContent] at called
    exact .inr (RenderM.runOn_bind_ok called)

/-- What a property that joins with itself says of the HTML of nodes, it says of their HTML one
after another. -/
theorem runOn_renderNodes_ok {r : NodeRenderer} {holds : Text → Prop} (nil : holds [])
    (join : ∀ {first second : Text}, holds first → holds second → holds (first ++ second))
    {nodes : List Node}
    (each : ∀ node ∈ nodes, ∀ s s' html, (renderNode r node).runOn s = (.ok html, s') → holds html)
    {s s' : RenderState} {html : Text} (ran : (renderNodes r nodes).runOn s = (.ok html, s')) :
    holds html := by
  induction nodes generalizing s html with
  | nil =>
    rw [renderNodes] at ran
    cases ran
    exact nil
  | cons node rest ih =>
    rw [renderNodes] at ran
    obtain ⟨first, middle, one, others⟩ := RenderM.runOn_bind_ok ran
    obtain ⟨second, last, two, done⟩ := RenderM.runOn_bind_ok others
    cases done
    exact join (each node List.mem_cons_self _ _ _ one)
      (ih (fun other member => each other (List.mem_cons_of_mem node member)) two)

/-- The renderer of a page with some handlers replaced and the rules of some extensions. -/
def Page.renderer (page : Page) (replaced : Handlers) (extensions : List Markdown.Extension) :
    NodeRenderer :=
  { NodeRenderer.ofPage page replaced with
    rules := basicRules ++ extensions.flatMap Markdown.Extension.nodeRules }

/-- HTML between the blocks is rendered as it is. -/
theorem runOn_blockHtml (page : Page) (extensions : List Markdown.Extension) (content : Text)
    (s : RenderState) :
    (renderNodes (page.renderer [] extensions) [.raw "block_html" [] content]).runOn s =
      (.ok (content ++ ['\n']), s) := by
  have handled : (page.renderer [] extensions).handlerFor? "block_html" =
      some (handler { required := ["html"] } fun bound =>
        return (← textArgument bound "html") ++ ['\n']) := rfl
  rw [renderNodes, RenderM.runOn_bind, renderNode_eq]
  simp only [Node.kind, handled]
  rw [takesAddress_of_children _ _ rfl, if_neg (by decide), renderContent]
  have called : (handler { required := ["html"] } (fun bound =>
      return (← textArgument bound "html") ++ ['\n'])
        { positional := [.text content], named := [] }).runOn s =
      (.ok (content ++ ['\n']), s) := rfl
  rw [called, renderNodes]
  simp only [pure_bind, List.append_nil, RenderM.runOn_pure]

/-- What is found in handlers stands in them. -/
theorem Handlers.mem_of_get? {handlers : Handlers} {kind : Text} {handle : Handler}
    (found : handlers.get? kind = some handle) : (kind, handle) ∈ handlers :=
  Entries.mem_of_lookup found

/-- Nothing is found for a kind that no handler is for. -/
theorem Handlers.get?_eq_none {handlers : Handlers} {kind : Text}
    (others : ∀ other handle, (other, handle) ∈ handlers → other ≠ kind) :
    handlers.get? kind = none := by
  rw [Handlers.get?, List.lookup_eq_none_iff]
  intro entry member
  exact bne_iff_ne.mpr fun same => others entry.1 entry.2 member same.symm

/-- A kind whose handler is not replaced has that of the page. -/
theorem get?_renderer_of_untouched {page : Page} {replaced : Handlers}
    {extensions : List Markdown.Extension} {kind : Text} (untouched : replaced.get? kind = none) :
    (page.renderer replaced extensions).handlers.get? kind = (pageHandlers page).get? kind := by
  change (replaced ++ pageHandlers page).lookup kind = _
  rw [List.lookup_append, show replaced.lookup kind = none from untouched, Option.none_or]
  rfl

/-! ## Ids that stay -/

namespace RenderM

/-- The rendering makes the table forget no id, whether it succeeds or not. -/
def KeepsIds (x : RenderM α) : Prop :=
  ∀ (s : RenderState) (id : Text), s.headingIds.contains id = true →
    (x.runOn s).2.headingIds.contains id = true

/-- A given result keeps the ids. -/
theorem keepsIds_pure (a : α) : (pure a : RenderM α).KeepsIds := fun _ _ kept => kept

/-- A computation that may fail keeps the ids. -/
theorem keepsIds_except (x : Except RenderError α) : (liftM x : RenderM α).KeepsIds :=
  fun _ _ kept => kept

/-- A computation that reports keeps the ids. -/
theorem keepsIds_logged (action : Logged α) : (liftM action : RenderM α).KeepsIds :=
  fun _ _ kept => kept

/-- Renderings that keep the ids do so one after another. -/
theorem KeepsIds.bind {x : RenderM α} {f : α → RenderM β} (first : x.KeepsIds)
    (second : ∀ a, (f a).KeepsIds) : (x >>= f).KeepsIds := by
  intro s id present
  have kept := first s id present
  rw [runOn_bind]
  cases ran : x.runOn s with
  | mk result s' =>
    rw [ran] at kept
    cases result with
    | ok a => exact second a s' id kept
    | error e => exact kept

end RenderM

/-- The handler makes the table forget no id, whatever it is called with. -/
def Handler.KeepsIds (handle : Handler) : Prop := ∀ call, (handle call).KeepsIds

open RenderM in
/-- A handler keeps the ids if what it does with its arguments does. -/
theorem keepsIds_handler {parameters : Parameters} {body : Entries → RenderM Text}
    (kept : ∀ bound, (body bound).KeepsIds) : Handler.KeepsIds (handler parameters body) :=
  fun call => (keepsIds_except (parameters.bind call)).bind kept

open RenderM in
/-- A handler of the content alone keeps the ids. -/
theorem keepsIds_contentHandler (body : Text → Text) :
    Handler.KeepsIds (contentHandler body) :=
  keepsIds_handler fun _ => (keepsIds_except _).bind fun _ => keepsIds_pure _

open RenderM in
/-- A handler without parameters keeps the ids. -/
theorem keepsIds_constantHandler (html : Text) : Handler.KeepsIds (constantHandler html) :=
  keepsIds_handler fun _ => keepsIds_pure html

open RenderM in
/-- The handlers that a page starts with keep the ids, that for headings apart. -/
theorem keepsIds_pageHandlers (page : Page) {kind : Text} {handle : Handler}
    (listed : (kind, handle) ∈ pageHandlers page) (other : kind ≠ "heading") :
    handle.KeepsIds := by
  simp only [pageHandlers, List.mem_cons, Prod.mk.injEq, List.not_mem_nil, or_false] at listed
  rcases listed with ⟨same, -⟩ | ⟨-, rfl⟩ | ⟨-, rfl⟩ | ⟨-, rfl⟩ | ⟨-, rfl⟩ | ⟨-, rfl⟩ | ⟨-, rfl⟩ |
    ⟨-, rfl⟩ | ⟨-, rfl⟩
  · exact absurd same other
  · exact keepsIds_handler fun _ => (keepsIds_except _).bind fun _ => (keepsIds_except _).bind
      fun _ => (keepsIds_except _).bind fun _ => keepsIds_logged _
  · exact keepsIds_handler fun _ => (keepsIds_except _).bind fun _ => (keepsIds_except _).bind
      fun _ => (keepsIds_except _).bind fun _ => keepsIds_logged _
  · exact keepsIds_contentHandler _
  · exact keepsIds_handler fun _ => (keepsIds_except _).bind fun _ => keepsIds_pure _
  · exact keepsIds_contentHandler _
  · exact keepsIds_constantHandler _
  · exact keepsIds_constantHandler _
  · exact keepsIds_handler fun _ => (keepsIds_except _).bind fun _ => (keepsIds_except _).bind
      fun _ => keepsIds_logged _

open RenderM in
/-- The rules for kinds without a handler keep the ids. -/
theorem keepsIds_basicRules {kind : Text} {rule : Handler} (listed : (kind, rule) ∈ basicRules) :
    rule.KeepsIds := by
  simp only [basicRules, List.mem_cons, Prod.mk.injEq, List.not_mem_nil, or_false] at listed
  rcases listed with ⟨-, rfl⟩ | ⟨-, rfl⟩ | ⟨-, rfl⟩ | ⟨-, rfl⟩ | ⟨-, rfl⟩ | ⟨-, rfl⟩ | ⟨-, rfl⟩ |
    ⟨-, rfl⟩ | ⟨-, rfl⟩ | ⟨-, rfl⟩ | ⟨-, rfl⟩
  · exact keepsIds_contentHandler _
  · exact keepsIds_contentHandler _
  · exact keepsIds_contentHandler _
  · exact keepsIds_handler fun _ => keepsIds_except _
  · exact keepsIds_constantHandler _
  · exact keepsIds_constantHandler _
  · exact keepsIds_contentHandler _
  · exact keepsIds_contentHandler _
  · exact keepsIds_handler fun _ => (keepsIds_except _).bind fun _ => keepsIds_pure _
  · exact keepsIds_contentHandler _
  · exact keepsIds_handler fun _ => (keepsIds_except _).bind fun _ => keepsIds_pure _

open RenderM in
/-- The rules of an extension keep the ids. -/
theorem keepsIds_nodeRules (extension : Markdown.Extension) {kind : Text} {rule : Handler}
    (listed : (kind, rule) ∈ extension.nodeRules) : rule.KeepsIds := by
  cases extension with
  | strikethrough | mark | insertion | superscript | subscript =>
    simp only [Markdown.Extension.nodeRules, List.mem_singleton, Prod.mk.injEq] at listed
    rw [listed.2]
    exact keepsIds_contentHandler _
  | url => cases listed
  | table =>
    simp only [Markdown.Extension.nodeRules, List.mem_cons, Prod.mk.injEq, List.not_mem_nil,
      or_false] at listed
    rcases listed with ⟨-, rfl⟩ | ⟨-, rfl⟩ | ⟨-, rfl⟩ | ⟨-, rfl⟩ | ⟨-, rfl⟩
    · exact keepsIds_contentHandler _
    · exact keepsIds_contentHandler _
    · exact keepsIds_contentHandler _
    · exact keepsIds_contentHandler _
    · exact keepsIds_handler fun _ => (keepsIds_except _).bind fun _ => keepsIds_pure _
  | footnotes =>
    simp only [Markdown.Extension.nodeRules, List.mem_cons, Prod.mk.injEq, List.not_mem_nil,
      or_false] at listed
    rcases listed with ⟨-, rfl⟩ | ⟨-, rfl⟩ | ⟨-, rfl⟩
    · exact keepsIds_handler fun _ => keepsIds_pure _
    · exact keepsIds_contentHandler _
    · exact keepsIds_handler fun _ => (keepsIds_except _).bind fun _ => keepsIds_pure _

end MarkdownSite
