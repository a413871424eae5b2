import Mathlib.Data.List.Forall2
import MarkdownSite.Proofs.Node.Image
import MarkdownSite.Proofs.Value.Ends

/-!
# Renderings that end alike

Two renderings of a document whose pages differ in what is known about the assets of its post fail
alike, whatever the images in it lead to. Where the images lead to the same places, the HTML is the
same too, although the reports may differ.
-/

namespace MarkdownSite

variable {α β : Type} {exact : Prop}

namespace RenderM

/-- Two renderings end alike, whatever has been reported, and leave the same heading ids if
`exact`, where they find the same ones. -/
def Alike (exact : Prop) (x y : RenderM α) : Prop :=
  ∀ s s' : RenderState, SameIf exact s.headingIds s'.headingIds →
    EndAlike (SameIf exact) (x.runOn s).1 (y.runOn s').1 ∧
      SameIf exact (x.runOn s).2.headingIds (y.runOn s').2.headingIds

/-- Given values are alike. -/
theorem alike_pure {a b : α} (same : SameIf exact a b) : Alike exact (pure a) (pure b) :=
  fun _ _ ids => ⟨same, ids⟩

/-- Computations that may fail are alike if they end so. -/
theorem alike_except {x y : Except RenderError α} (same : EndAlike (SameIf exact) x y) :
    Alike exact (liftM x : RenderM α) (liftM y) :=
  fun _ _ ids => ⟨same, ids⟩

/-- Computations that only report are alike if they give the same values. -/
theorem alike_logged {x y : Logged α}
    (same : exact → ∀ records others, (x.run records).1 = (y.run others).1) :
    Alike exact (liftM x : RenderM α) (liftM y) :=
  fun s s' ids => ⟨fun exactly => same exactly s.records s'.records, ids⟩

/-- Equal steps on the heading ids are alike. -/
theorem alike_onIds {step other : HeadingIds → α × HeadingIds} (same : SameIf exact step other) :
    Alike exact (onIds step) (onIds other) := by
  intro s s' ids
  rw [runOn_onIds, runOn_onIds]
  refine ⟨fun exactly => ?_, fun exactly => ?_⟩
  · rw [same exactly, ids exactly]
  · dsimp only
    rw [same exactly, ids exactly]

/-- Renderings one after another are alike if those that come first are, and those that follow are
wherever they are given the same. -/
theorem Alike.bind {x y : RenderM α} {f g : α → RenderM β} (first : Alike exact x y)
    (second : ∀ a b, SameIf exact a b → Alike exact (f a) (g b)) :
    Alike exact (x >>= f) (y >>= g) := by
  intro s s' ids
  have ends := first s s' ids
  rw [runOn_bind, runOn_bind]
  generalize x.runOn s = left at ends ⊢
  generalize y.runOn s' = right at ends ⊢
  obtain ⟨result, t⟩ := left
  obtain ⟨result', t'⟩ := right
  obtain ⟨same, after⟩ := ends
  cases result with
  | ok a =>
    cases result' with
    | ok b => exact second a b same t t' after
    | error e => exact same.elim
  | error e =>
    cases result' with
    | ok b => exact same.elim
    | error f => exact ⟨same, after⟩

end RenderM

/-! ## Calls that differ in a text -/

/-- Two values are equal, or both are texts, which are equal if `exact`. -/
def Value.Alike (exact : Prop) (v w : Value) : Prop :=
  v = w ∨ ∃ t u, v = .text t ∧ w = .text u ∧ (exact → t = u)

/-- Two lists have the same keys in the same order, with related values under them. -/
def KeyedBy (related : α → β → Prop) : List (Text × α) → List (Text × β) → Prop :=
  List.Forall₂ fun first second => first.1 = second.1 ∧ related first.2 second.2

/-- What is found under a key is related. -/
theorem KeyedBy.lookup {related : α → β → Prop} {first : List (Text × α)}
    {second : List (Text × β)} (keyed : KeyedBy related first second) (key : Text) :
    Option.Rel related (first.lookup key) (second.lookup key) := by
  induction keyed with
  | nil => exact .none
  | @cons entry other _ _ same _ ih =>
    obtain ⟨name, a⟩ := entry
    obtain ⟨name', b⟩ := other
    obtain ⟨rfl, related⟩ := same
    rw [List.lookup_cons, List.lookup_cons]
    cases key == name with
    | true => exact .some related
    | false => exact ih

/-- A key is found in both lists or in none. -/
theorem KeyedBy.isSome_lookup {related : α → β → Prop} {first : List (Text × α)}
    {second : List (Text × β)} (keyed : KeyedBy related first second) (key : Text) :
    (first.lookup key).isSome = (second.lookup key).isSome := by
  have found := keyed.lookup key
  generalize first.lookup key = left at found ⊢
  generalize second.lookup key = right at found ⊢
  cases found with
  | none => rfl
  | some _ => rfl

/-- Related values stand under the names that they are put under. -/
theorem KeyedBy.zip {related : α → β → Prop} {first : List α} {second : List β}
    (values : List.Forall₂ related first second) (names : List Text) :
    KeyedBy related (names.zip first) (names.zip second) := by
  induction values generalizing names with
  | nil =>
    rw [List.zip_nil_right, List.zip_nil_right]
    exact .nil
  | cons one _ ih =>
    cases names with
    | nil => exact .nil
    | cons name names => exact .cons ⟨rfl, one⟩ (ih names)

/-- Entries with the same names and values that are alike. -/
abbrev Entries.Alike (exact : Prop) : Entries → Entries → Prop := KeyedBy (Value.Alike exact)

/-- Calls with the same arguments by name, and arguments by position that are alike. -/
structure Call.Alike (exact : Prop) (call other : Call) : Prop where
  /-- The arguments by position. -/
  positional : List.Forall₂ (Value.Alike exact) call.positional other.positional
  /-- The arguments by name. -/
  named : call.named = other.named

/-- Calls that are alike bind alike. -/
theorem Parameters.bind_alike (parameters : Parameters) {call other : Call}
    (alike : Call.Alike exact call other) :
    (∃ bound bound', parameters.bind call = .ok bound ∧ parameters.bind other = .ok bound' ∧
        Entries.Alike exact bound bound') ∨
      ∃ e, parameters.bind call = .error e ∧ parameters.bind other = .error e := by
  obtain ⟨positional, named⟩ := call
  obtain ⟨positional', named'⟩ := other
  obtain ⟨values, rfl⟩ := alike
  have length := values.length_eq
  have placed := KeyedBy.zip values (parameters.required ++ parameters.optional)
  have same : Entries.Alike exact named named := by
    refine List.forall₂_same.mpr fun entry _ => ⟨rfl, .inl rfl⟩
  have bound : Entries.Alike exact
      ((parameters.required ++ parameters.optional).zip positional ++ named)
      ((parameters.required ++ parameters.optional).zip positional' ++ named) :=
    List.rel_append placed same
  unfold bind
  dsimp only at length placed ⊢
  simp only [length, placed.isSome_lookup, ← Option.not_isSome, bound.isSome_lookup]
  split
  · exact .inr ⟨_, rfl, rfl⟩
  split
  · exact .inr ⟨_, rfl, rfl⟩
  split
  · exact .inr ⟨_, rfl, rfl⟩
  split
  · exact .inr ⟨_, rfl, rfl⟩
  · exact .inl ⟨_, _, rfl, rfl, bound⟩

/-- The arguments of a parameter are alike. -/
theorem Entries.Alike.argument {bound other : Entries} (alike : Entries.Alike exact bound other)
    (name : Text) :
    Value.Alike exact (MarkdownSite.argument bound name) (MarkdownSite.argument other name) := by
  have found := alike.lookup name
  unfold MarkdownSite.argument Entries.get?
  generalize bound.lookup name = left at found ⊢
  generalize other.lookup name = right at found ⊢
  cases found with
  | none => exact .inl rfl
  | some same => exact same

/-- The text arguments of a parameter end alike. -/
theorem Entries.Alike.textArgument {bound other : Entries}
    (alike : Entries.Alike exact bound other) (name : Text) :
    EndAlike (SameIf exact) (MarkdownSite.textArgument bound name)
      (MarkdownSite.textArgument other name) := by
  unfold MarkdownSite.textArgument
  rcases alike.argument name with same | ⟨t, u, isText, isOther, same⟩
  · rw [same]
    exact .refl _
  · rw [isText, isOther]
    exact same

/-- The text arguments of a parameter that may be left out end alike. -/
theorem Entries.Alike.optionalText {bound other : Entries}
    (alike : Entries.Alike exact bound other) (name : Text) :
    EndAlike (SameIf exact) (MarkdownSite.optionalText bound name)
      (MarkdownSite.optionalText other name) := by
  have given (t : Text) :
      (if (Value.text t).isTruthy then (Value.text t).asText else .ok []) = .ok t := by
    cases t with
    | nil => rfl
    | cons c t => rfl
  unfold MarkdownSite.optionalText
  rcases alike.argument name with same | ⟨t, u, isText, isOther, same⟩
  · rw [same]
    exact .refl _
  · rw [isText, isOther, given, given]
    exact same

/-- Arguments that are exactly alike are the same. -/
theorem Entries.Alike.argument_eq {bound other : Entries}
    (alike : Entries.Alike exact bound other) (exactly : exact) (name : Text) :
    MarkdownSite.argument bound name = MarkdownSite.argument other name := by
  rcases alike.argument name with same | ⟨t, u, isText, isOther, same⟩
  · exact same
  · rw [isText, isOther, same exactly]

/-! ## Handlers -/

/-- Two handlers make alike HTML of calls that are alike. -/
def Handler.Alike (exact : Prop) (handle other : Handler) : Prop :=
  ∀ {call call' : Call}, Call.Alike exact call call' →
    RenderM.Alike exact (handle call) (other call')

/-- Handlers with the same parameters are alike if what they do with their arguments is. -/
theorem alike_handler {parameters : Parameters} {body other : Entries → RenderM Text}
    (alike : ∀ {bound bound'}, Entries.Alike exact bound bound' →
      RenderM.Alike exact (body bound) (other bound')) :
    Handler.Alike exact (handler parameters body) (handler parameters other) := by
  intro call call' calls
  unfold handler
  rcases parameters.bind_alike calls with ⟨bound, bound', one, two, same⟩ | ⟨e, one, two⟩
  · rw [one, two]
    exact alike same
  · rw [one, two]
    exact RenderM.alike_except (.refl _)

/-- Handlers of the content alone that make HTML alike are alike. -/
theorem alike_contentHandler (body : Text → Text) :
    Handler.Alike exact (contentHandler body) (contentHandler body) :=
  alike_handler fun bounds => (RenderM.alike_except (bounds.textArgument "text")).bind
    fun _ _ same => RenderM.alike_pure fun exactly => congrArg body (same exactly)

/-- A handler without parameters is like itself. -/
theorem alike_constantHandler (html : Text) :
    Handler.Alike exact (constantHandler html) (constantHandler html) :=
  alike_handler fun _ => RenderM.alike_pure fun _ => rfl

/-- What is made of one text argument and of others of any kind is alike. -/
theorem alike_textHandler {parameters : Parameters} (name : Text)
    (body : Text → (Text → Value) → Text) :
    Handler.Alike exact
      (handler parameters fun bound =>
        return body (← textArgument bound name) (argument bound))
      (handler parameters fun bound =>
        return body (← textArgument bound name) (argument bound)) :=
  alike_handler fun bounds => (RenderM.alike_except (bounds.textArgument name)).bind
    fun _ _ same => RenderM.alike_pure fun exactly => by
      rw [same exactly, funext (bounds.argument_eq exactly)]

/-! ## The handlers of two pages -/

/-- Two pages have the same options, site and highlighter, and images lead to the same places on
both if `exact`. -/
structure Page.Alike (exact : Prop) (page other : Page) : Prop where
  /-- The options. -/
  options : page.options = other.options
  /-- The site. -/
  site : page.site = other.site
  /-- What highlights code. -/
  highlighter : page.highlighter = other.highlighter
  /-- The places that images lead to. -/
  images : exact → ∀ image : Image, image.source page = image.source other

namespace RenderM

/-- Ids for the same contents are alike. -/
theorem alike_allocateId {fragment other : Text} (same : SameIf exact fragment other)
    (transform : Text.CaseTransform) :
    Alike exact (allocateId fragment transform) (allocateId other transform) := by
  have silent (id id' : Option Text) (x y : Logged Unit) (sameId : SameIf exact id id') :
      Alike exact ((liftM x : RenderM Unit) >>= fun _ => pure id)
        ((liftM y : RenderM Unit) >>= fun _ => pure id') := by
    have first : Alike exact (liftM x : RenderM Unit) (liftM y) := alike_logged fun _ _ _ => rfl
    exact first.bind fun _ _ _ => alike_pure sameId
  unfold allocateId
  refine (alike_onIds fun exactly => by rw [same exactly]).bind fun id id' sameId => ?_
  cases id with
  | none =>
    cases id' with
    | none => exact silent none none (pure ()) (pure ()) sameId
    | some unique => exact silent none (some unique) (pure ()) _ sameId
  | some unique =>
    cases id' with
    | none => exact silent (some unique) none _ (pure ()) sameId
    | some unique' => exact silent (some unique) (some unique') _ _ sameId

end RenderM

/-- What is made of a code block does not depend on what has been reported. -/
theorem steady_renderCodeBlock (page : Page) (code info : Text) :
    Steady (renderCodeBlock page code info) := by
  have highlighted (language : Option Text) (enabled : Bool) :
      Steady (Code.highlight page.highlighter code language enabled) := by
    unfold Code.highlight
    dsimp only
    split
    · exact steady_pure _
    · exact steady_pure _
    · split
      · exact steady_pure _
      · split
        · exact steady_pure _
        · exact (steady_report _ _ _).bind fun _ => steady_pure _
  exact (highlighted _ _).bind fun _ => steady_pure _

namespace Page.Alike

variable {page other : Page}

/-- The handlers for headings are alike. -/
theorem heading (pages : Page.Alike exact page other) {first second : Heading.Source}
    (same : SameIf exact first second) :
    RenderM.Alike exact (renderHeading page first) (renderHeading other second) := by
  unfold renderHeading
  rw [pages.options]
  dsimp only
  split
  · exact RenderM.alike_pure fun exactly => by rw [same exactly]
  · refine (RenderM.alike_allocateId (fun exactly => by rw [same exactly]) _).bind
      fun id id' sameId => ?_
    cases id with
    | none =>
      cases id' with
      | none => exact RenderM.alike_pure fun exactly => by rw [same exactly]
      | some _ => exact RenderM.alike_pure fun exactly => nomatch sameId exactly
    | some _ =>
      cases id' with
      | none => exact RenderM.alike_pure fun exactly => nomatch sameId exactly
      | some _ =>
        exact RenderM.alike_pure fun exactly => by
          rw [same exactly, Option.some.inj (sameId exactly)]

/-- The handlers for links are alike. -/
theorem link (pages : Page.Alike exact page other) {first second : Link}
    (same : SameIf exact first second) :
    RenderM.Alike exact (liftM (renderLink page first) : RenderM Text)
      (liftM (renderLink other second)) := by
  refine RenderM.alike_logged fun exactly records others => ?_
  rw [run_renderLink, run_renderLink, same exactly, pages.options]
  unfold Link.element Link.externalHtml
  rw [pages.options, pages.site]

/-- The handlers for images are alike. -/
theorem image (pages : Page.Alike exact page other) {first second : Image}
    (same : SameIf exact first second) :
    RenderM.Alike exact (liftM (renderImage page first) : RenderM Text)
      (liftM (renderImage other second)) := by
  refine RenderM.alike_logged fun exactly records others => ?_
  rw [run_renderImage, run_renderImage, same exactly, pages.options, pages.images exactly]

/-- The handlers for code blocks are alike. -/
theorem codeBlock (pages : Page.Alike exact page other) {code code' info info' : Text}
    (sameCode : SameIf exact code code') (sameInfo : SameIf exact info info') :
    RenderM.Alike exact (liftM (renderCodeBlock page code info) : RenderM Text)
      (liftM (renderCodeBlock other code' info')) := by
  refine RenderM.alike_logged fun exactly records others => ?_
  have same : renderCodeBlock page code info = renderCodeBlock other code' info' := by
    unfold renderCodeBlock
    rw [sameCode exactly, sameInfo exactly, pages.options, pages.highlighter]
  rw [same, steady_renderCodeBlock, steady_renderCodeBlock other code' info' others]

/-- The handlers that two pages start with are alike. -/
theorem handlers (pages : Page.Alike exact page other) :
    KeyedBy (Handler.Alike exact) (pageHandlers page) (pageHandlers other) := by
  have paragraph : renderParagraph page = renderParagraph other := by
    unfold renderParagraph
    rw [pages.options]
  have text : renderText page = renderText other := by
    unfold renderText
    rw [pages.options]
  unfold pageHandlers
  rw [paragraph, text]
  refine .cons ⟨rfl, alike_handler fun bounds => ?_⟩
    <| .cons ⟨rfl, alike_handler fun bounds => ?_⟩
    <| .cons ⟨rfl, alike_handler fun bounds => ?_⟩ <| .cons ⟨rfl, alike_contentHandler _⟩
    <| .cons ⟨rfl, alike_textHandler _ fun t _ => renderListItem t⟩
    <| .cons ⟨rfl, alike_contentHandler _⟩ <| .cons ⟨rfl, alike_constantHandler _⟩
    <| .cons ⟨rfl, alike_constantHandler _⟩
    <| .cons ⟨rfl, alike_handler fun bounds => ?_⟩ .nil
  case refine_1 =>
    refine (RenderM.alike_except (bounds.textArgument _)).bind fun content content' same => ?_
    exact pages.heading fun exactly => by rw [same exactly, bounds.argument_eq exactly]
  case refine_2 =>
    refine (RenderM.alike_except (bounds.textArgument _)).bind fun text text' sameText => ?_
    refine (RenderM.alike_except (bounds.textArgument _)).bind fun url url' sameUrl => ?_
    refine (RenderM.alike_except (bounds.optionalText _)).bind fun title title' sameTitle => ?_
    exact pages.link fun exactly => by
      rw [sameText exactly, sameUrl exactly, sameTitle exactly, bounds.argument_eq exactly]
  case refine_3 =>
    refine (RenderM.alike_except (bounds.textArgument _)).bind fun text text' sameText => ?_
    refine (RenderM.alike_except (bounds.textArgument _)).bind fun url url' sameUrl => ?_
    refine (RenderM.alike_except (bounds.optionalText _)).bind fun title title' sameTitle => ?_
    exact pages.image fun exactly => by
      rw [sameText exactly, sameUrl exactly, sameTitle exactly]
  case refine_4 =>
    refine (RenderM.alike_except (bounds.textArgument _)).bind fun code code' sameCode => ?_
    refine (RenderM.alike_except (bounds.optionalText _)).bind fun info info' sameInfo => ?_
    exact pages.codeBlock sameCode sameInfo

end Page.Alike

/-! ## Rules -/

/-- The rules for kinds without a handler are like themselves. -/
theorem alike_basicRules : KeyedBy (Handler.Alike exact) basicRules basicRules := by
  unfold basicRules
  refine .cons ⟨rfl, alike_contentHandler _⟩ <| .cons ⟨rfl, alike_contentHandler _⟩
    <| .cons ⟨rfl, alike_contentHandler _⟩
    <| .cons ⟨rfl, alike_handler fun bounds => RenderM.alike_except (bounds.textArgument _)⟩
    <| .cons ⟨rfl, alike_constantHandler _⟩ <| .cons ⟨rfl, alike_constantHandler _⟩
    <| .cons ⟨rfl, alike_contentHandler _⟩ <| .cons ⟨rfl, alike_contentHandler _⟩
    <| .cons ⟨rfl, alike_textHandler _ fun t _ => t ++ ['\n']⟩
    <| .cons ⟨rfl, alike_contentHandler _⟩
    <| .cons ⟨rfl, alike_textHandler _ fun t other =>
        renderList t (other "ordered") (other "start")⟩ .nil

/-- The rules of an extension are like themselves. -/
theorem alike_nodeRules (extension : Markdown.Extension) :
    KeyedBy (Handler.Alike exact) extension.nodeRules extension.nodeRules := by
  cases extension with
  | strikethrough | mark | insertion | superscript | subscript =>
    exact .cons ⟨rfl, alike_contentHandler _⟩ .nil
  | url => exact .nil
  | table =>
    exact .cons ⟨rfl, alike_contentHandler _⟩ <| .cons ⟨rfl, alike_contentHandler _⟩
      <| .cons ⟨rfl, alike_contentHandler _⟩ <| .cons ⟨rfl, alike_contentHandler _⟩
      <| .cons ⟨rfl, alike_textHandler _ fun t other => tableCellHtml t (other "align")
        (other "head")⟩ .nil
  | footnotes =>
    exact .cons ⟨rfl, alike_handler fun bounds => RenderM.alike_pure fun exactly => by
        rw [bounds.argument_eq exactly]⟩
      <| .cons ⟨rfl, alike_contentHandler _⟩
      <| .cons ⟨rfl, alike_textHandler _ fun t other =>
        footnoteHtml t (other "index").toText⟩ .nil

/-! ## Nodes -/

/-- Two renderers whose handlers and rules are alike. -/
structure NodeRenderer.Alike (exact : Prop) (r other : NodeRenderer) : Prop where
  /-- The handlers. -/
  handlers : KeyedBy (Handler.Alike exact) r.handlers other.handlers
  /-- The rules. -/
  rules : KeyedBy (Handler.Alike exact) r.rules other.rules

namespace NodeRenderer.Alike

variable {r other : NodeRenderer}

/-- The handlers of a kind are alike. -/
theorem handlerFor? (renderers : NodeRenderer.Alike exact r other) (kind : Text) :
    Option.Rel (Handler.Alike exact) (r.handlerFor? kind) (other.handlerFor? kind) := by
  have handled := renderers.handlers.lookup kind
  have ruled := renderers.rules.lookup kind
  unfold NodeRenderer.handlerFor? Handlers.get?
  generalize r.handlers.lookup kind = handler at handled ⊢
  generalize other.handlers.lookup kind = handler' at handled ⊢
  cases handled with
  | some alike => exact .some alike
  | none => exact ruled

/-- The same nodes stand for addresses. -/
theorem takesAddress (renderers : NodeRenderer.Alike exact r other) (node : Node) :
    r.takesAddress node = other.takesAddress node := by
  unfold NodeRenderer.takesAddress Handlers.get?
  rw [renderers.handlers.isSome_lookup]

end NodeRenderer.Alike

/-- A call with one text and the same arguments by name is like another. -/
theorem Call.alike_text {content content' : Text} (same : SameIf exact content content')
    (named : Entries) :
    Call.Alike exact { positional := [.text content], named }
      { positional := [.text content'], named } where
  positional := .cons (.inr ⟨content, content', rfl, rfl, same⟩) .nil
  named := rfl

mutual

/-- A node is rendered alike. -/
theorem alike_renderNode {r other : NodeRenderer} (renderers : NodeRenderer.Alike exact r other)
    (node : Node) : RenderM.Alike exact (renderNode r node) (renderNode other node) := by
  rw [renderNode_eq, renderNode_eq, ← renderers.takesAddress]
  have handled := renderers.handlerFor? node.kind
  generalize r.handlerFor? node.kind = handler at handled ⊢
  generalize other.handlerFor? node.kind = handler' at handled ⊢
  cases handled with
  | none => exact RenderM.alike_except (.refl (.error _))
  | some alike =>
    dsimp only
    split
    · exact alike (Call.alike_text (fun _ => rfl) _)
    · match node with
      | .leaf kind attributes =>
        rw [renderContent, renderContent]
        exact alike ⟨.nil, rfl⟩
      | .raw kind attributes content =>
        rw [renderContent, renderContent]
        exact alike (Call.alike_text (fun _ => rfl) _)
      | .parent kind attributes children =>
        rw [renderContent, renderContent]
        exact (alike_renderNodes renderers children).bind
          fun _ _ same => alike (Call.alike_text same attributes)

/-- Nodes one after another are rendered alike. -/
theorem alike_renderNodes {r other : NodeRenderer} (renderers : NodeRenderer.Alike exact r other)
    (nodes : List Node) : RenderM.Alike exact (renderNodes r nodes) (renderNodes other nodes) := by
  match nodes with
  | [] =>
    rw [renderNodes, renderNodes]
    exact RenderM.alike_pure fun _ => rfl
  | node :: rest =>
    rw [renderNodes, renderNodes]
    refine (alike_renderNode renderers node).bind fun first first' sameFirst => ?_
    refine (alike_renderNodes renderers rest).bind fun second second' sameSecond => ?_
    exact RenderM.alike_pure fun exactly => by rw [sameFirst exactly, sameSecond exactly]

end

/-- The renderers that two pages start with, with the rules of extensions, are alike. -/
theorem Page.Alike.renderer {page other : Page} (pages : Page.Alike exact page other)
    (extensions : List Markdown.Extension) :
    NodeRenderer.Alike exact (page.renderer [] extensions) (other.renderer [] extensions) where
  handlers := pages.handlers
  rules := by
    refine List.rel_append alike_basicRules ?_
    induction extensions with
    | nil => exact .nil
    | cons extension rest ih => exact List.rel_append (alike_nodeRules extension) ih

end MarkdownSite
