import MarkdownSite.Proofs.Heading.Written

/-!
# The headings of a document

The headings that one run writes are followed through the tree, wherever they stand: those inside a
node come before the node. Each of them is written bare or with an id of its own, and no two ids of
a run are the same.
-/

namespace MarkdownSite

/-- A heading that a run has written. -/
structure WrittenHeading where
  /-- The node. -/
  node : Node
  /-- What was rendered. -/
  source : Heading.Source
  /-- The HTML that it gave. -/
  html : Text

/-- The id that stands in a heading. -/
def WrittenHeading.id? (heading : WrittenHeading) : Option Text :=
  Heading.idIn? heading.source.level heading.html

/-- The heading that a call of a handler asks for. -/
def Heading.Source.ofCall (call : Call) : Except RenderError Heading.Source := do
  let bound ← Parameters.bind { required := ["text", "level"], passes := true } call
  return { content := ← textArgument bound "text", level := (argument bound "level").toText }

/-- The heading that the call of a handler for a node writes, if it writes one. -/
def headingWritten (handle : Handler) (node : Node) (call : Call) (s : RenderState) :
    List WrittenHeading :=
  if node.kind = "heading".toList then
    match Heading.Source.ofCall call, ((handle call).runOn s).1 with
    | .ok source, .ok html => [⟨node, source, html⟩]
    | _, _ => []
  else []

mutual

/-- The headings that the rendering of a node writes from a state, in order. -/
def Node.headingsWritten (r : NodeRenderer) (node : Node) (s : RenderState) :
    List WrittenHeading :=
  match r.handlerFor? node.kind with
  | none => []
  | some handle =>
    match node with
    | .leaf _ attributes => headingWritten handle node { named := attributes } s
    | .raw _ attributes content =>
      headingWritten handle node { positional := [.text content], named := attributes } s
    | .parent _ attributes children =>
      if r.takesAddress node then []
      else
        headingsWrittenIn r children s ++
          match (renderNodes r children).runOn s with
          | (.ok inside, s') =>
            headingWritten handle node { positional := [.text inside], named := attributes } s'
          | (.error _, _) => []

/-- The headings that the rendering of nodes one after another writes from a state, in order. -/
def headingsWrittenIn (r : NodeRenderer) (nodes : List Node) (s : RenderState) :
    List WrittenHeading :=
  match nodes with
  | [] => []
  | node :: rest =>
    node.headingsWritten r s ++
      match (renderNode r node).runOn s with
      | (.ok _, s') => headingsWrittenIn r rest s'
      | (.error _, _) => []

end

mutual

/-- The headings of a tree in the order in which they are rendered. -/
def Node.headings (r : NodeRenderer) (node : Node) : List Node :=
  let own := if node.kind = "heading".toList then [node] else []
  match node with
  | .leaf _ _ => own
  | .raw _ _ _ => own
  | .parent _ _ children => if r.takesAddress node then [] else headingsIn r children ++ own

/-- The headings of trees one after another. -/
def headingsIn (r : NodeRenderer) (nodes : List Node) : List Node :=
  match nodes with
  | [] => []
  | node :: rest => node.headings r ++ headingsIn r rest

end

/-- Headings are written by the default handler with ids on, and nothing else makes the table of
heading ids forget an id. -/
structure NodeRenderer.WritesHeadings (r : NodeRenderer) (page : Page) : Prop where
  /-- Ids are on. -/
  on : page.options.headerIds = true
  /-- The handler for headings is the default one. -/
  heading : r.handlers.get? "heading" = (pageHandlers page).get? "heading"
  /-- The other handlers keep the ids. -/
  handlers : ∀ kind handle, r.handlers.get? kind = some handle → kind ≠ "heading" →
    handle.KeepsIds
  /-- The rules keep the ids. -/
  rules : ∀ kind rule, r.rules.get? kind = some rule → rule.KeepsIds

/-- What a part of a run does to the table of heading ids, with the headings that it writes. -/
structure HeadingIds.Passes (options : RenderOptions) (before : HeadingIds)
    (headings : List WrittenHeading) (after : HeadingIds) : Prop where
  /-- Each heading is written as headings are. -/
  written : ∀ heading ∈ headings, Heading.Written options heading.source heading.html
  /-- The ids are new to the table. -/
  new : ∀ id ∈ headings.filterMap WrittenHeading.id?, before.contains id = false
  /-- The ids stand in the table afterwards. -/
  recorded : ∀ id ∈ headings.filterMap WrittenHeading.id?, after.contains id = true
  /-- No two ids are the same. -/
  distinct : (headings.filterMap WrittenHeading.id?).Nodup
  /-- The table forgets nothing. -/
  kept : ∀ id, before.contains id = true → after.contains id = true

namespace HeadingIds.Passes

variable {options : RenderOptions}

/-- A part of a run that writes no heading and keeps the ids. -/
theorem of_kept {before after : HeadingIds}
    (kept : ∀ id, before.contains id = true → after.contains id = true) :
    Passes options before [] after where
  written := by simp
  new := by simp
  recorded := by simp
  distinct := by simp
  kept := kept

/-- The writing of one heading, whose id is new to the table and is taken up. -/
theorem single {before after : HeadingIds} {heading : WrittenHeading}
    (written : Heading.Written options heading.source heading.html)
    (fresh : ∀ id, heading.id? = some id → before.contains id = false)
    (table : ∀ id, after.contains id = true ↔ heading.id? = some id ∨ before.contains id = true) :
    Passes options before [heading] after := by
  have own (id : Text) : id ∈ [heading].filterMap WrittenHeading.id? → heading.id? = some id := by
    intro member
    obtain ⟨other, among, read⟩ := List.mem_filterMap.mp member
    rwa [List.mem_singleton.mp among] at read
  refine ⟨?_, ?_, ?_, ?_, ?_⟩
  · intro other member
    rwa [List.mem_singleton.mp member]
  · exact fun id member => fresh id (own id member)
  · exact fun id member => (table id).mpr (.inl (own id member))
  · rw [List.filterMap_cons]
    split
    · exact List.nodup_nil
    · exact List.nodup_singleton _
  · exact fun id present => (table id).mpr (.inr present)

/-- One part of a run after another. -/
theorem append {before middle after : HeadingIds} {first second : List WrittenHeading}
    (one : Passes options before first middle) (two : Passes options middle second after) :
    Passes options before (first ++ second) after where
  written heading member := by
    rcases List.mem_append.mp member with inside | inside
    · exact one.written heading inside
    · exact two.written heading inside
  new id member := by
    rw [List.filterMap_append] at member
    rcases List.mem_append.mp member with inside | inside
    · exact one.new id inside
    · -- an id that the table holds from the start is not new in the middle
      have fresh := two.new id inside
      by_contra present
      rw [Bool.not_eq_false] at present
      rw [one.kept id present] at fresh
      cases fresh
  recorded id member := by
    rw [List.filterMap_append] at member
    rcases List.mem_append.mp member with inside | inside
    · exact two.kept id (one.recorded id inside)
    · exact two.recorded id inside
  distinct := by
    rw [List.filterMap_append, List.nodup_append]
    refine ⟨one.distinct, two.distinct, ?_⟩
    rintro id earlier _ later rfl
    have fresh := two.new id later
    rw [one.recorded id earlier] at fresh
    cases fresh
  kept id present := two.kept id (one.kept id present)

end HeadingIds.Passes

/-! ## Calls of the handler for headings -/

/-- Headings that are left to the page are rendered by its handler. -/
theorem headingHandler_of_default {r : NodeRenderer} {page : Page} {handle : Handler}
    (default : r.handlers.get? "heading" = (pageHandlers page).get? "heading")
    (handled : r.handlerFor? "heading" = some handle) :
    (pageHandlers page).get? "heading" = some handle := by
  have known : ((pageHandlers page).get? "heading").isSome = true := rfl
  rwa [NodeRenderer.handlerFor?, default, Option.or_of_isSome known] at handled

/-- The default handler for headings reads the heading off its call and renders it. -/
theorem runOn_headingHandler (page : Page) {handle : Handler}
    (default : (pageHandlers page).get? "heading" = some handle) (call : Call) (s : RenderState) :
    (handle call).runOn s =
      match Heading.Source.ofCall call with
      | .ok source => (renderHeading page source).runOn s
      | .error e => (.error e, s) := by
  cases default
  unfold handler Heading.Source.ofCall
  rw [RenderM.runOn_bind, RenderM.runOn_except]
  cases bound : Parameters.bind { required := ["text", "level"], passes := true } call with
  | error e => rfl
  | ok arguments =>
    simp only
    rw [RenderM.runOn_bind, RenderM.runOn_except]
    cases content : textArgument arguments "text" with
    | error e => simp only [bind, Except.bind, content]
    | ok text => simp only [bind, Except.bind, content, pure, Except.pure]

/-- A call of a handler in a run passes the table of heading ids, with the heading that it writes;
a heading is missing only where the call fails. -/
theorem passes_call {r : NodeRenderer} {page : Page} (writes : r.WritesHeadings page) {node : Node}
    {handle : Handler} (handled : r.handlerFor? node.kind = some handle) (call : Call)
    (s : RenderState) :
    HeadingIds.Passes page.options s.headingIds (headingWritten handle node call s)
        ((handle call).runOn s).2.headingIds ∧
      ∀ html, ((handle call).runOn s).1 = .ok html →
        (headingWritten handle node call s).map WrittenHeading.node =
          if node.kind = "heading".toList then [node] else [] := by
  unfold headingWritten
  by_cases heading : node.kind = "heading".toList
  · have default : (pageHandlers page).get? "heading" = some handle :=
      headingHandler_of_default writes.heading (by rwa [heading] at handled)
    rw [if_pos heading, runOn_headingHandler page default]
    cases asked : Heading.Source.ofCall call with
    | error e =>
      refine ⟨.of_kept fun _ present => present, ?_⟩
      intro html impossible
      contradiction
    | ok source =>
      obtain ⟨html, gave, written, fresh, table⟩ := Heading.written_renderHeading writes.on source s
      rw [gave]
      exact ⟨.single written fresh table, fun _ _ => (if_pos heading).symm⟩
  · have keeps : handle.KeepsIds := by
      rcases Option.or_eq_some_iff.mp handled with own | ⟨-, ruled⟩
      · exact writes.handlers _ _ own heading
      · exact writes.rules _ _ ruled
    rw [if_neg heading]
    exact ⟨.of_kept fun id present => keeps call s id present,
      fun _ _ => (if_neg heading).symm⟩

/-! ## Runs -/

/-- What holds of the rendering of a node or of several: the run passes the table of heading ids,
and one that succeeds writes exactly the headings of the tree. -/
def HeadingsFollow (options : RenderOptions) (x : RenderM Text) (nodes : List Node)
    (written : RenderState → List WrittenHeading) : Prop :=
  ∀ s, HeadingIds.Passes options s.headingIds (written s) (x.runOn s).2.headingIds ∧
    ∀ html, (x.runOn s).1 = .ok html → (written s).map WrittenHeading.node = nodes

/-- An address that is handed over writes no heading, for it is a link. -/
theorem passes_address {r : NodeRenderer} {page : Page} (writes : r.WritesHeadings page)
    {node : Node} {handle : Handler} (handled : r.handlerFor? node.kind = some handle)
    (address : r.takesAddress node = true) (call : Call) (s : RenderState) :
    HeadingIds.Passes page.options s.headingIds [] ((handle call).runOn s).2.headingIds := by
  have other : node.kind ≠ "heading" := by
    rw [kind_of_takesAddress address]
    decide
  have passes := (passes_call writes handled call s).1
  rwa [headingWritten, if_neg other] at passes

mutual

/-- The headings of a node are followed through its rendering. -/
theorem headingsFollow_node {r : NodeRenderer} {page : Page} (writes : r.WritesHeadings page)
    (node : Node) :
    HeadingsFollow page.options (renderNode r node) (node.headings r) (node.headingsWritten r) := by
  intro s
  rw [renderNode_eq, Node.headingsWritten.eq_def]
  cases handled : r.handlerFor? node.kind with
  | none =>
    refine ⟨.of_kept fun _ present => present, ?_⟩
    intro html impossible
    contradiction
  | some handle =>
    match node with
    | .leaf kind attributes =>
      simp only [takesAddress_of_children r (.leaf kind attributes) rfl, Bool.false_eq_true,
        ↓reduceIte, renderContent, Node.headings]
      exact passes_call writes handled _ s
    | .raw kind attributes content =>
      simp only [takesAddress_of_children r (.raw kind attributes content) rfl,
        Bool.false_eq_true, ↓reduceIte, renderContent, Node.headings]
      exact passes_call writes handled _ s
    | .parent kind attributes children =>
      by_cases address : r.takesAddress (.parent kind attributes children) = true
      · simp only [address, ↓reduceIte, Node.headings]
        exact ⟨passes_address writes handled address _ s, fun _ _ => rfl⟩
      · have inside := headingsFollow_nodes writes children s
        simp only [address, Bool.false_eq_true, ↓reduceIte, renderContent, Node.headings,
          RenderM.runOn_bind]
        cases ran : (renderNodes r children).runOn s with
        | mk result s' =>
          rw [ran] at inside
          cases result with
          | error e =>
            rw [List.append_nil]
            refine ⟨inside.1, ?_⟩
            intro html impossible
            contradiction
          | ok html =>
            have own := passes_call writes handled
              { positional := [.text html], named := attributes } s'
            refine ⟨inside.1.append own.1, fun whole gave => ?_⟩
            rw [List.map_append, inside.2 html rfl, own.2 whole gave]

/-- The headings of nodes one after another are followed through their rendering. -/
theorem headingsFollow_nodes {r : NodeRenderer} {page : Page} (writes : r.WritesHeadings page)
    (nodes : List Node) :
    HeadingsFollow page.options (renderNodes r nodes) (headingsIn r nodes)
      (headingsWrittenIn r nodes) := by
  intro s
  match nodes with
  | [] =>
    rw [renderNodes]
    exact ⟨.of_kept fun _ present => present, fun _ _ => rfl⟩
  | node :: rest =>
    have first := headingsFollow_node writes node s
    rw [renderNodes, headingsWrittenIn, RenderM.runOn_bind]
    cases ran : (renderNode r node).runOn s with
    | mk result s' =>
      rw [ran] at first
      cases result with
      | error e =>
        rw [List.append_nil]
        refine ⟨first.1, ?_⟩
        intro html impossible
        contradiction
      | ok html =>
        have second := headingsFollow_nodes writes rest s'
        simp only
        rw [RenderM.runOn_bind]
        cases continued : (renderNodes r rest).runOn s' with
        | mk result' s'' =>
          rw [continued] at second
          cases result' with
          | error e =>
            refine ⟨first.1.append second.1, ?_⟩
            intro html impossible
            contradiction
          | ok html' =>
            refine ⟨first.1.append second.1, fun _ _ => ?_⟩
            rw [List.map_append, first.2 html rfl, second.2 html' rfl, headingsIn]

end

/-! ## The renderer of a page -/

/-- With ids on, the renderer of a page writes headings by the default handler. -/
theorem writesHeadings_renderer {page : Page} (on : page.options.headerIds = true)
    {replaced : Handlers}
    (others : ∀ kind handle, (kind, handle) ∈ replaced → kind ≠ "heading" ∧ handle.KeepsIds)
    (extensions : List Markdown.Extension) :
    (page.renderer replaced extensions).WritesHeadings page where
  on := on
  heading := get?_renderer_of_untouched
    (Handlers.get?_eq_none fun kind handle member => (others kind handle member).1)
  handlers kind handle found other := by
    rcases List.mem_append.mp (Handlers.mem_of_get? found) with own | listed
    · exact (others kind handle own).2
    · exact keepsIds_pageHandlers page listed other
  rules kind rule found := by
    rcases List.mem_append.mp (Handlers.mem_of_get? found) with basic | added
    · exact keepsIds_basicRules basic
    · obtain ⟨extension, -, listed⟩ := List.mem_flatMap.mp added
      exact keepsIds_nodeRules extension listed

/-- **Every heading of a run is written bare or with an id of its own**, wherever it stands and
whatever the table of heading ids holds at the start. -/
theorem headings_have_ids_of_their_own (page : Page) (on : page.options.headerIds = true)
    (replaced : Handlers)
    (others : ∀ kind handle, (kind, handle) ∈ replaced → kind ≠ "heading" ∧ handle.KeepsIds)
    (extensions : List Markdown.Extension) (nodes : List Node) (s : RenderState) :
    (∀ heading ∈ headingsWrittenIn (page.renderer replaced extensions) nodes s,
      Heading.Written page.options heading.source heading.html) ∧
    (∀ id ∈ (headingsWrittenIn (page.renderer replaced extensions) nodes s).filterMap
      WrittenHeading.id?, id ≠ [] ∧ s.headingIds.contains id = false) ∧
    ((headingsWrittenIn (page.renderer replaced extensions) nodes s).filterMap
      WrittenHeading.id?).Nodup ∧
    ∀ html, ((renderNodes (page.renderer replaced extensions) nodes).runOn s).1 = .ok html →
      (headingsWrittenIn (page.renderer replaced extensions) nodes s).map WrittenHeading.node =
        headingsIn (page.renderer replaced extensions) nodes := by
  obtain ⟨passes, complete⟩ :=
    headingsFollow_nodes (writesHeadings_renderer on others extensions) nodes s
  refine ⟨passes.written, fun id member => ⟨?_, passes.new id member⟩, passes.distinct, complete⟩
  obtain ⟨heading, among, read⟩ := List.mem_filterMap.mp member
  exact (passes.written heading among).id?_ne_nil read

/-- A heading in a quote that asks for the first numbered id comes before one that asks for the
plain id and one that is a link to it. -/
theorem headings_have_ids_of_their_own_in_quote :
    ({ anchorAlias := true } : RenderOptions).headerIds = true ∧
    ((headingsWrittenIn (Page.renderer { options := { anchorAlias := true } }
        [("paragraph", contentHandler id)] [.table])
      [.parent "block_quote" [] [.parent "heading" [("level", .int 2)] [.text "A-1"]],
        .parent "heading" [("level", .int 1)] [.text "A"],
        .parent "heading" [("level", .int 1)] [.parent "link" [("url", .text "#A")] [.text "B"]]]
      {}).filterMap WrittenHeading.id?).Nodup := by
  refine ⟨rfl, (headings_have_ids_of_their_own _ rfl _ (fun kind handle member => ?_) _ _ _).2.2.1⟩
  cases List.mem_singleton.mp member
  exact ⟨by decide, keepsIds_contentHandler id⟩

end MarkdownSite
