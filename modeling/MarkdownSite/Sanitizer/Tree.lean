import MarkdownSite.Sanitizer.Tokens

/-!
# Trees of elements

While HTML is read, elements move from one place to another. They are kept by number, each with its
parent and its children, so that a move changes two elements only.
-/

namespace MarkdownSite.Sanitizer

/-- What names an element of a tree. -/
abbrev ElementId := Nat

/-- A child of an element. -/
inductive Child where
  | element (id : ElementId)
  | text (t : Text)
  | comment (t : Text)
  deriving DecidableEq, Repr

/-- An element of a tree. -/
structure Element where
  /-- Its tag. -/
  tag : StartTag
  /-- The element it stands in. -/
  parent : Option ElementId := none
  /-- Its children, the last one first. -/
  children : List Child := []
  deriving Repr

/-- A tree of elements; the first one is the root. -/
structure Tree where
  /-- The elements by number. -/
  elements : Array Element := #[{ tag := { name := "html" } }]

namespace Tree

/-- The root of each tree. -/
def root : ElementId := 0

/-- The name of an element. -/
def name (tree : Tree) (id : ElementId) : Text :=
  match tree.elements[id]? with
  | some element => element.tag.name
  | none => []

/-- The tag of an element. -/
def tag (tree : Tree) (id : ElementId) : StartTag :=
  match tree.elements[id]? with
  | some element => element.tag
  | none => { name := [] }

/-- The children of an element, the last one first. -/
def children (tree : Tree) (id : ElementId) : List Child :=
  match tree.elements[id]? with
  | some element => element.children
  | none => []

/-- The element that an element stands in. -/
def parent? (tree : Tree) (id : ElementId) : Option ElementId :=
  tree.elements[id]?.bind Element.parent

/-- Changes the children of an element. -/
def modifyChildren (tree : Tree) (id : ElementId) (f : List Child → List Child) : Tree :=
  { tree with
    elements := tree.elements.modify id fun element =>
      { element with children := f element.children } }

/-- Sets the parent of an element. -/
def setParent (tree : Tree) (id : ElementId) (parent : Option ElementId) : Tree :=
  { tree with elements := tree.elements.modify id fun element => { element with parent } }

/-- A new element that stands nowhere yet. -/
def add (tree : Tree) (tag : StartTag) : ElementId × Tree :=
  (tree.elements.size, { tree with elements := tree.elements.push { tag } })

/-- Children with a text put first; texts that meet are one. -/
def consText (t : Text) (children : List Child) : List Child :=
  if t.isEmpty then children
  else
    match children with
    | .text before :: rest => .text (before ++ t) :: rest
    | children => .text t :: children

/-- Changes the children before a given element, the nearest one first. -/
def modifyBefore (f : List Child → List Child) (next : ElementId) : List Child → List Child
  | [] => f []
  | child :: rest =>
    if child = .element next then child :: f rest else child :: modifyBefore f next rest

/-- A place in a tree: in an element, before one of its children or at its end. -/
structure Place where
  /-- The element. -/
  parent : ElementId
  /-- The child that follows, if there is one. -/
  next : Option ElementId := none

/-- Changes the children before a place. -/
def modifyAt (tree : Tree) (place : Place) (f : List Child → List Child) : Tree :=
  tree.modifyChildren place.parent <|
    match place.next with
    | some next => modifyBefore f next
    | none => f

/-- Puts a text at a place. -/
def insertText (tree : Tree) (place : Place) (t : Text) : Tree := tree.modifyAt place (consText t)

/-- Puts an element that stands nowhere at a place. -/
def insert (tree : Tree) (place : Place) (id : ElementId) : Tree :=
  (tree.modifyAt place (.element id :: ·)).setParent id (some place.parent)

/-- Takes an element out of the one it stands in. -/
def detach (tree : Tree) (id : ElementId) : Tree :=
  match tree.parent? id with
  | some parent =>
    (tree.modifyChildren parent (List.filter (· ≠ .element id))).setParent id none
  | none => tree

/-- Moves the children of one element to another one, after those that it has. -/
def moveChildren (tree : Tree) (source target : ElementId) : Tree :=
  let moved := tree.children source
  let tree := (tree.modifyChildren source fun _ => []).modifyChildren target (moved ++ ·)
  moved.foldl (fun tree child =>
    match child with
    | .element id => tree.setParent id (some target)
    | _ => tree) tree

end Tree

/-- A node of an HTML fragment. -/
inductive HtmlNode where
  | element (tag : StartTag) (children : List HtmlNode)
  | text (t : Text)
  | comment (t : Text)
  deriving Repr

/-- The children of an element as nodes; `depth` bounds how deep they go. -/
def Tree.nodes (tree : Tree) : (depth : Nat) → ElementId → List HtmlNode
  | 0, _ => []
  | depth + 1, id =>
    (tree.children id).reverse.map fun
      | .element child => .element (tree.tag child) (tree.nodes depth child)
      | .text t => .text t
      | .comment t => .comment t

end MarkdownSite.Sanitizer
