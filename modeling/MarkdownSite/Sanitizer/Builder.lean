import MarkdownSite.Sanitizer.Element
import MarkdownSite.Sanitizer.Tree

/-!
# Building of trees

What the reading of a fragment keeps besides the tree: the open elements, the formatting that is in
force, and where in a table reading stands.
-/

namespace MarkdownSite.Sanitizer

/-- Where in a fragment reading stands, which says what tags mean. -/
inductive Mode where
  | body
  | table
  | caption
  | columnGroup
  | tableBody
  | row
  | cell
  /-- Text in a table, which is kept until a tag follows. -/
  | tableText (before : Mode) (kept : Text)
  /-- The content of an element that is no markup. -/
  | verbatim (before : Mode)
  deriving DecidableEq, Repr

/-- An entry in the list of formatting in force. -/
inductive Formatting where
  | marker
  | element (id : ElementId)
  deriving DecidableEq, Repr

/-- What the reading of a fragment keeps. -/
structure Builder where
  /-- The tree so far. -/
  tree : Tree := {}
  /-- The open elements, innermost first; the root is the last one. -/
  openElements : List ElementId := [Tree.root]
  /-- The formatting in force, the last one first. -/
  formatting : List Formatting := []
  /-- What tags mean. -/
  mode : Mode := .body
  /-- The form that is open. -/
  form : Option ElementId := none
  /-- A line feed that follows at once is left out. -/
  dropsLineFeed : Bool := false
  /-- What does not belong into a table goes before it. -/
  fosters : Bool := false

/-- A step in the building of a tree. -/
abbrev Build := StateM Builder

/-- Changes the tree. -/
def modifyTree (f : Tree → Tree) : Build Unit := modify fun b => { b with tree := f b.tree }

/-- Enters a mode. -/
def setMode (mode : Mode) : Build Unit := modify fun b => { b with mode }

/-- The innermost open element. -/
def current : Build ElementId := do return (← get).openElements.head?.getD Tree.root

/-- The name of the innermost open element. -/
def currentName : Build Text := do return (← get).tree.name (← current)

/-- The names of the open elements, innermost first. -/
def openNames : Build (List Text) := do
  let b ← get
  return b.openElements.map b.tree.name

/-- Closes the innermost open element; the root stays open. -/
def pop : Build Unit :=
  modify fun b =>
    { b with openElements := if b.openElements.length > 1 then b.openElements.tail
                             else b.openElements }

/-- Closes open elements up to the first one whose name satisfies `stop`, which stays open. -/
def popUntil (stop : Text → Bool) : Build Unit :=
  modify fun b =>
    let kept := b.openElements.dropWhile fun id => id != Tree.root && !stop (b.tree.name id)
    { b with openElements := kept }

/-- Closes open elements through the first one whose name satisfies `stop`. -/
def popThrough (stop : Text → Bool) : Build Unit := do
  popUntil stop
  pop

/-- Whether the innermost open element that satisfies `isTarget` is in scope. -/
def isInScopeWhere (scope : Scope) (isTarget : ElementId → Text → Bool) : Build Bool := do
  let b ← get
  let found := b.openElements.find? fun id =>
    isTarget id (b.tree.name id) || scope.isBounded (b.tree.name id)
  return found.any fun id => isTarget id (b.tree.name id)

/-- Whether an element of this name is in scope. -/
def isInScope (name : Text) (scope : Scope) : Build Bool :=
  isInScopeWhere scope fun _ other => other == name

/-- Closes elements whose end tags may be left out, but not those of the given name. -/
def closeImplied (except : Option Text) : Build Unit :=
  popUntil fun name => !impliedEndElements.contains name || some name == except

/-! ## Insertion -/

/-- Where content goes that does not belong into a table: before the table. -/
def fosterPlace : Build Tree.Place := do
  let b ← get
  match b.openElements.dropWhile fun id => b.tree.name id != "table".toList with
  | [] => return { parent := Tree.root }
  | table :: around =>
    match b.tree.parent? table with
    | some parent => return { parent, next := some table }
    | none => return { parent := around.head?.getD Tree.root }

/-- Where the next node goes. -/
def currentPlace : Build Tree.Place := do
  if (← get).fosters && fosteringElements.contains (← currentName) then fosterPlace
  else return { parent := ← current }

/-- Adds text. -/
def insertText (t : Text) : Build Unit := do
  let place ← currentPlace
  modifyTree (·.insertText place t)

/-- Adds a comment to the innermost open element. -/
def insertComment (t : Text) : Build Unit := do
  let parent ← current
  modifyTree (·.modifyChildren parent (.comment t :: ·))

/-- Adds an element and opens it. -/
def insertElement (tag : StartTag) : Build ElementId := do
  let place ← currentPlace
  let (id, tree) := (← get).tree.add tag
  modify fun b => { b with tree := tree.insert place id, openElements := id :: b.openElements }
  return id

/-- Adds an element without content. -/
def insertVoid (tag : StartTag) : Build Unit := do
  let _ ← insertElement tag
  pop

/-- Does something while content that does not belong into the table goes before it. -/
def fostering {α : Type} (action : Build α) : Build α := do
  modify fun b => { b with fosters := true }
  let a ← action
  modify fun b => { b with fosters := false }
  return a

/-! ## Formatting -/

/-- Bounds the formatting in force. -/
def addMarker : Build Unit := modify fun b => { b with formatting := .marker :: b.formatting }

/-- Ends the formatting in force up to the last bound. -/
def clearToMarker : Build Unit :=
  modify fun b => { b with formatting := (b.formatting.dropWhile (· != .marker)).drop 1 }

/-- The formatting since the last bound. -/
def boundFormatting : Build (List ElementId) := do
  return ((← get).formatting.takeWhile (· != .marker)).filterMap fun
    | .element id => some id
    | .marker => none

/-- The last formatting of the given name since the last bound. -/
def formattingNamed (name : Text) : Build (Option ElementId) := do
  let tree := (← get).tree
  return (← boundFormatting).find? fun id => tree.name id == name

/-- Removes an element from the formatting in force. -/
def endFormatting (id : ElementId) : Build Unit :=
  modify fun b => { b with formatting := b.formatting.erase (.element id) }

/-- Opens an element whose formatting is in force from now on. Of four that are the same, the first
one ends. -/
def insertFormatting (tag : StartTag) : Build Unit := do
  let id ← insertElement tag
  let tree := (← get).tree
  let same := (← boundFormatting).filter fun other => tree.tag other == tag
  if let some oldest := same[2]? then endFormatting oldest
  modify fun b => { b with formatting := .element id :: b.formatting }

/-- Puts one element in the place of another one in the formatting in force. -/
def replaceFormatting (old new : ElementId) : Build Unit :=
  modify fun b =>
    { b with
      formatting := b.formatting.map fun entry =>
        if entry = .element old then .element new else entry }

/-- Opens again the formatting in force that is not open. -/
def reopenFormatting : Build Unit := do
  let b ← get
  let closed := b.formatting.takeWhile fun
    | .marker => false
    | .element id => !b.openElements.contains id
  for entry in closed.reverse do
    if let .element id := entry then
      replaceFormatting id (← insertElement (b.tree.tag id))

end MarkdownSite.Sanitizer
