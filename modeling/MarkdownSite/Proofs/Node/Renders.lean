import MarkdownSite.Proofs.Node.Run
import MarkdownSite.Proofs.Value.Entries

/-!
# Renderings that succeed

A node is rendered, whatever the state, if the nodes inside are, and if its handler renders what
comes out. What is to hold of the HTML is left open.
-/

namespace MarkdownSite

open Text

/-- A computation renders HTML of which something holds, from every state. -/
def Renders (holds : Text → Prop) (x : RenderM Text) : Prop :=
  ∀ s, ∃ html s', x.runOn s = (.ok html, s') ∧ holds html

variable {holds : Text → Prop}

/-! ## Handlers -/

/-- A computation that gives a value hands it on. -/
theorem RenderM.runOn_ok_bind {α β : Type} {x : Except RenderError α} {a : α} (given : x = .ok a)
    (f : α → RenderM β) (s : RenderState) : (liftM x >>= f).runOn s = (f a).runOn s := by
  rw [given]
  rfl

/-- A call with one text binds it and the attributes, if their names are not taken and are let
pass. -/
theorem Parameters.bind_text {first : Text} {others optional : List Text} {passes : Bool}
    {content : Text} {named : Entries}
    (free : ∀ entry ∈ named, entry.1 ≠ first ∧ entry.1 ≠ selfParameter)
    (known : ∀ entry ∈ named, passes = true ∨ entry.1 ∈ first :: others ++ optional)
    (given : ∀ name ∈ others, (named.get? name).isSome = true) :
    Parameters.bind { required := first :: others, optional, passes }
      { positional := [.text content], named } = .ok ((first, .text content) :: named) := by
  have placed : (first :: others ++ optional).zip [Value.text content] =
      [(first, .text content)] := by
    simp
  have few : ¬[Value.text content].length > (first :: others ++ optional).length := by
    simp
  have found : ((first :: others).any fun name =>
      (List.lookup name ((first, Value.text content) :: named)).isNone) = false := by
    rw [List.any_eq_false]
    intro name member
    by_cases same : name = first
    · simp [same]
    · have present := given name (List.mem_of_ne_of_mem same member)
      rw [Entries.get?] at present
      simp [List.lookup_cons, beq_false_of_ne same, Option.isSome_iff_ne_none.mp present]
  unfold bind
  simp only [placed, few, ↓reduceIte, List.singleton_append]
  split
  · rename_i taken
    obtain ⟨entry, member, clash⟩ := List.any_eq_true.mp taken
    obtain ⟨other, renderer⟩ := free entry member
    simp [List.lookup_cons, beq_false_of_ne other, renderer] at clash
  split
  · rename_i refused
    obtain ⟨strict, unknown⟩ := Bool.and_eq_true_iff.mp refused
    obtain ⟨entry, member, foreign⟩ := List.any_eq_true.mp unknown
    rcases known entry member with passing | listed
    · rw [passing] at strict
      cases strict
    · rw [List.contains_iff_mem.mpr listed] at foreign
      cases foreign
  rw [found]
  rfl

/-- A text is read where it is bound after another argument. -/
theorem textArgument_cons {named : Entries} {name first t : Text} (differ : name ≠ first)
    (given : named.get? name = some (.text t)) (v : Value) :
    textArgument ((first, v) :: named) name = .ok t := by
  rw [textArgument, argument_cons_of_ne differ, argument, given]
  rfl

/-- An argument that comes first plays no part for a text with another name that may be left out. -/
theorem optionalText_cons_of_ne {name first : Text} (differ : name ≠ first) (v : Value)
    (named : Entries) : optionalText ((first, v) :: named) name = optionalText named name := by
  rw [optionalText, argument_cons_of_ne differ]
  rfl

/-- A text that may be left out is read if what counts as true is a text. -/
theorem exists_optionalText {named : Entries} {name : Text}
    (text : (argument named name).isTruthy = true → ∃ t, argument named name = .text t) :
    ∃ t, optionalText named name = .ok t := by
  rw [optionalText]
  split
  · rename_i truthy
    obtain ⟨t, isText⟩ := text truthy
    rw [isText]
    exact ⟨t, rfl⟩
  · exact ⟨[], rfl⟩

/-- A text that may be left out is read where it is bound after another argument. -/
theorem exists_optionalText_cons {named : Entries} {name first : Text} (differ : name ≠ first)
    (text : (argument named name).isTruthy = true → ∃ t, argument named name = .text t)
    (v : Value) : ∃ t, optionalText ((first, v) :: named) name = .ok t := by
  rw [optionalText_cons_of_ne differ]
  exact exists_optionalText text

/-- What holds of the HTML may be weakened. -/
theorem Renders.imp {x : RenderM Text} {other : Text → Prop} (rendered : Renders holds x)
    (weaker : ∀ html, holds html → other html) : Renders other x := fun s => by
  obtain ⟨html, s', ran, made⟩ := rendered s
  exact ⟨html, s', ran, weaker html made⟩

/-- What holds whenever HTML is rendered holds of the HTML. -/
theorem Renders.and {x : RenderM Text} {other : Text → Prop} (rendered : Renders holds x)
    (also : ∀ s html s', x.runOn s = (.ok html, s') → other html) :
    Renders (fun html => holds html ∧ other html) x := fun s => by
  obtain ⟨html, s', ran, made⟩ := rendered s
  exact ⟨html, s', ran, made, also s html s' ran⟩

/-- HTML that is given is rendered. -/
theorem renders_pure {html : Text} (made : holds html) : Renders holds (pure html) :=
  fun s => ⟨html, s, rfl, made⟩

/-- A computation that only reports renders what it gives. -/
theorem renders_logged {action : Logged Text} (made : ∀ records, holds (action.run records).1) :
    Renders holds (liftM action) := fun s => ⟨_, _, rfl, made s.records⟩

/-- A value that is given is handed on. -/
theorem renders_ok_bind {α : Type} {x : Except RenderError α} {a : α} (given : x = .ok a)
    {f : α → RenderM Text} (rendered : Renders holds (f a)) : Renders holds (liftM x >>= f) :=
  fun s => by
    rw [RenderM.runOn_ok_bind given]
    exact rendered s

/-- A handler renders what it makes of the arguments that it binds. -/
theorem renders_handler {parameters : Parameters} {body : Entries → RenderM Text} {call : Call}
    {bound : Entries} (binds : parameters.bind call = .ok bound)
    (rendered : Renders holds (body bound)) : Renders holds (handler parameters body call) :=
  renders_ok_bind binds rendered

/-- A handler of the content alone renders a text if what it makes of it is as asked for. -/
theorem renders_contentHandler {body : Text → Text} {content : Text} (made : holds (body content)) :
    Renders holds (contentHandler body { positional := [.text content] }) :=
  fun s => ⟨body content, s, rfl, made⟩

/-- A handler without parameters renders its own HTML if this is as asked for. -/
theorem renders_constantHandler {html : Text} (made : holds html) :
    Renders holds (constantHandler html {}) :=
  fun s => ⟨html, s, rfl, made⟩

/-- The handler for links renders the link that its call describes. -/
theorem runOn_linkCall (page : Page) {handle : Handler}
    (default : (pageHandlers page).get? "link" = some handle) (content : Text) {named : Entries}
    {url title : Text} (leads : named.get? "url" = some (.text url))
    (titled : optionalText named "title" = .ok title)
    (free : ∀ entry ∈ named, entry.1 ≠ "text".toList ∧ entry.1 ≠ selfParameter)
    (s : RenderState) :
    (handle { positional := [.text content], named }).runOn s =
      (liftM (renderLink page { text := content, url, title, isAutolink :=
        (argument named "autolink").isTruthy }) : RenderM Text).runOn s := by
  have bound : Parameters.bind
      { required := ["text", "url"], optional := ["title", "autolink"], passes := true }
      { positional := [.text content], named } = .ok (("text".toList, .text content) :: named) :=
    Parameters.bind_text free (fun _ _ => .inl rfl) fun name member => by
      rw [List.mem_singleton.mp member, leads]
      rfl
  have text : textArgument (("text".toList, .text content) :: named) "text" = .ok content := rfl
  cases default
  rw [handler, RenderM.runOn_ok_bind bound, RenderM.runOn_ok_bind text,
    RenderM.runOn_ok_bind (textArgument_cons (by decide) leads _),
    RenderM.runOn_ok_bind ((optionalText_cons_of_ne (by decide) _ _).trans titled),
    argument_cons_of_ne (by decide)]

/-! ## Nodes -/

/-- Nodes one after another are rendered if each is, and what holds of the HTML of each holds of all
of it. -/
theorem renders_nodes {r : NodeRenderer} {one : Node → Text → Prop}
    {all : List Node → Text → Prop} (nil : all [] [])
    (cons : ∀ {node rest first second}, one node first → all rest second →
      all (node :: rest) (first ++ second)) {nodes : List Node}
    (each : ∀ node ∈ nodes, Renders (one node) (renderNode r node)) :
    Renders (all nodes) (renderNodes r nodes) := by
  induction nodes with
  | nil =>
    intro s
    rw [renderNodes]
    exact ⟨[], s, rfl, nil⟩
  | cons node rest ih =>
    intro s
    obtain ⟨first, middle, ranFirst, madeFirst⟩ := each node List.mem_cons_self s
    obtain ⟨second, last, ranSecond, madeSecond⟩ :=
      ih (fun other member => each other (List.mem_cons_of_mem node member)) middle
    refine ⟨first ++ second, last, ?_, cons madeFirst madeSecond⟩
    rw [renderNodes, RenderM.runOn_bind, ranFirst]
    dsimp only
    rw [RenderM.runOn_bind, ranSecond]
    rfl

/-- A list of one node runs as the node does. -/
theorem runOn_renderNodes_single {r : NodeRenderer} {node : Node} {s s' : RenderState} {html : Text}
    (ran : (renderNode r node).runOn s = (.ok html, s')) :
    (renderNodes r [node]).runOn s = (.ok html, s') := by
  rw [renderNodes, RenderM.runOn_bind, ran]
  dsimp only
  rw [renderNodes, RenderM.runOn_bind, RenderM.runOn_pure]
  dsimp only
  rw [RenderM.runOn_pure, List.append_nil]

/-- A list of one node is rendered as the node is. -/
theorem renders_single {r : NodeRenderer} {node : Node}
    (rendered : Renders holds (renderNode r node)) : Renders holds (renderNodes r [node]) := by
  intro s
  obtain ⟨html, s', ran, made⟩ := rendered s
  exact ⟨html, s', runOn_renderNodes_single ran, made⟩

/-- A node without content is rendered if its handler renders its attributes. -/
theorem renders_leaf {r : NodeRenderer} {kind : Text} {attributes : Entries} {handle : Handler}
    (handled : r.handlerFor? kind = some handle)
    (called : Renders holds (handle { named := attributes })) :
    Renders holds (renderNode r (.leaf kind attributes)) := by
  have plain := takesAddress_of_children r (.leaf kind attributes) rfl
  rw [renderNode_eq]
  simp only [Node.kind, handled, plain, Bool.false_eq_true, ↓reduceIte, renderContent]
  exact called

/-- A node whose content is text is rendered if its handler renders this. -/
theorem renders_raw {r : NodeRenderer} {kind content : Text} {attributes : Entries}
    {handle : Handler} (handled : r.handlerFor? kind = some handle)
    (called : Renders holds (handle { positional := [.text content], named := attributes })) :
    Renders holds (renderNode r (.raw kind attributes content)) := by
  have plain := takesAddress_of_children r (.raw kind attributes content) rfl
  rw [renderNode_eq]
  simp only [Node.kind, handled, plain, Bool.false_eq_true, ↓reduceIte, renderContent]
  exact called

/-- A node with nodes inside is rendered if these are, and its handler renders what comes out. -/
theorem renders_parent {within : Text → Prop} {r : NodeRenderer} {kind : Text}
    {attributes : Entries} {children : List Node} {handle : Handler}
    (handled : r.handlerFor? kind = some handle)
    (plain : r.takesAddress (.parent kind attributes children) = false)
    (inside : Renders within (renderNodes r children))
    (outside : ∀ content, within content →
      Renders holds (handle { positional := [.text content], named := attributes })) :
    Renders holds (renderNode r (.parent kind attributes children)) := by
  intro s
  obtain ⟨content, middle, ran, made⟩ := inside s
  obtain ⟨html, last, called, done⟩ := outside content made middle
  refine ⟨html, last, ?_, done⟩
  rw [renderNode_eq]
  simp only [Node.kind, handled, plain, Bool.false_eq_true, ↓reduceIte]
  rw [renderContent, RenderM.runOn_bind, ran]
  exact called

/-- A link that is handed over as an address is rendered if its handler renders the address. -/
theorem renders_address {r : NodeRenderer} {node : Node} {handle : Handler}
    (handled : r.handlerFor? node.kind = some handle) (address : r.takesAddress node = true)
    (called : Renders holds (handle node.addressCall)) : Renders holds (renderNode r node) := by
  rw [renderNode_eq]
  simp only [handled, address, ↓reduceIte]
  exact called

/-- A page renders the kinds of nodes that it handles with its own handlers. -/
theorem Page.exists_handler (page : Page) (extensions : List Markdown.Extension) {kind : Text}
    (known : ((pageHandlers page).get? kind).isSome = true) :
    ∃ handle, (pageHandlers page).get? kind = some handle ∧
      (page.renderer [] extensions).handlerFor? kind = some handle := by
  obtain ⟨handle, default⟩ := Option.isSome_iff_exists.mp known
  refine ⟨handle, default, ?_⟩
  change ((pageHandlers page).get? kind).or _ = _
  rw [default, Option.some_or]

/-- A link that a page hands over as an address is rendered with the address as its text. -/
theorem runOn_address (page : Page) (extensions : List Markdown.Extension) {node : Node}
    (address : (page.renderer [] extensions).takesAddress node = true) {url title : Text}
    (leads : node.attributes.get? "url" = some (.text url))
    (titled : optionalText node.attributes "title" = .ok title)
    (free : ∀ entry ∈ node.attributes, entry.1 ≠ "text".toList ∧ entry.1 ≠ selfParameter)
    (s : RenderState) :
    (renderNode (page.renderer [] extensions) node).runOn s =
      (liftM (renderLink page {
        text := renormalize (node.autolinkText?.getD [])
        url
        title
        isAutolink := true }) : RenderM Text).runOn s := by
  obtain ⟨handle, default, handled⟩ := @Page.exists_handler page extensions "link" rfl
  have kept {name : Text} (other : name ≠ "autolink") :
      node.autolinkAttributes.get? name = node.attributes.get? name :=
    Entries.get?_insert_of_ne other _ _
  have leads' : node.autolinkAttributes.get? "url" = some (.text url) := by
    rw [kept (by decide), leads]
  have titled' : optionalText node.autolinkAttributes "title" = .ok title := by
    rw [← titled, optionalText, optionalText, argument, argument, kept (by decide)]
  have flagged : (argument node.autolinkAttributes "autolink").isTruthy = true := by
    rw [argument, Node.autolinkAttributes, Entries.get?_insert_self]
    rfl
  have free' : ∀ entry ∈ node.autolinkAttributes,
      entry.1 ≠ "text".toList ∧ entry.1 ≠ selfParameter := by
    intro entry member
    rcases Entries.eq_or_mem_of_mem_insert member with rfl | before
    · exact ⟨by decide, by decide⟩
    · exact free entry before
  rw [renderNode_eq, kind_of_takesAddress address, handled]
  simp only [address, ↓reduceIte]
  rw [Node.addressCall, runOn_linkCall page default _ leads' titled' free' s, flagged]

/-- Only links are handed over as addresses. -/
theorem takesAddress_of_kind {r : NodeRenderer} {node : Node} (other : node.kind ≠ "link".toList) :
    r.takesAddress node = false := by
  cases address : r.takesAddress node with
  | true => exact absurd (kind_of_takesAddress address) other
  | false => rfl

/-- A node other than a link is rendered if the nodes inside are, and its handler renders what comes
out. -/
theorem renders_filled {within : Text → Prop} {r : NodeRenderer} {kind : Text}
    {attributes : Entries} {children : List Node} {handle : Handler}
    (handled : r.handlerFor? kind = some handle) (other : kind ≠ "link")
    (inside : Renders within (renderNodes r children))
    (outside : ∀ content, within content →
      Renders holds (handle { positional := [.text content], named := attributes })) :
    Renders holds (renderNode r (.parent kind attributes children)) :=
  renders_parent handled (takesAddress_of_kind other) inside outside

end MarkdownSite
