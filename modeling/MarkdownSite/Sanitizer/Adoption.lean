import MarkdownSite.Sanitizer.Builder

/-!
# Formatting that ends out of turn

Where formatting ends inside a block that has been opened in it, the block is taken out, and the
part of the formatting that it holds is put into the block. The two then stand one in the other.
-/

namespace MarkdownSite.Sanitizer

/-- Takes an element away from the open ones. -/
def closeElement (id : ElementId) : Build Unit :=
  modify fun b => { b with openElements := b.openElements.erase id }

/-- Opens an element right inside another one that is open. -/
def openInside (outer id : ElementId) : Build Unit :=
  modify fun b =>
    { b with openElements := b.openElements.flatMap fun o => if o = outer then [id, o] else [o] }

/-- A new element with the tag of another one. -/
def cloneElement (id : ElementId) : Build ElementId := do
  let (clone, tree) := (← get).tree.add ((← get).tree.tag id)
  modifyTree fun _ => tree
  return clone

/-- The position of an element in the formatting in force, counted from the first one. -/
def formattingIndex (id : ElementId) : Build Nat := do
  return (← get).formatting.reverse.idxOf (.element id)

/-- Takes one element out of the formatting in force and puts another one at a position, counted
from the first one. -/
def moveFormatting (old new : ElementId) (position : Nat) : Build Unit :=
  modify fun b =>
    let kept := b.formatting.reverse.erase (.element old)
    { b with
      formatting := (kept.take position ++ .element new :: kept.drop position).reverse }

/-- The elements open between a block and the formatting that it stands in, from the inside on. The
last node is put into a copy of each one that is formatting in force, and the others are closed:
the outermost copy, and the position of its formatting. -/
def wrapLast (block : ElementId) (last : ElementId) (position : Nat) :
    List ElementId → Build (ElementId × Nat)
  | [] => return (last, position)
  | id :: outer => do
    if (← get).formatting.contains (.element id) then
      let position ← if last = block then (· + 1) <$> formattingIndex id else pure position
      let clone ← cloneElement id
      replaceFormatting id clone
      modify fun b =>
        { b with openElements := b.openElements.map fun o => if o = id then clone else o }
      modifyTree fun tree => (tree.detach last).insert { parent := clone } last
      wrapLast block clone position outer
    else
      closeElement id
      wrapLast block last position outer

/-- Takes a block out of the formatting that it stands in, both being open. -/
def adopt (formatting block : ElementId) : Build Unit := do
  let b ← get
  let around := b.openElements.dropWhile (· != block)
  let between := (around.drop 1).takeWhile (· != formatting)
  let ancestor := ((around.dropWhile (· != formatting)).drop 1).head?.getD Tree.root
  let (last, position) ← wrapLast block block (← formattingIndex formatting) (between.take 3)
  modifyTree (·.detach last)
  let place ← if fosteringElements.contains (b.tree.name ancestor) then fosterPlace
    else pure { parent := ancestor }
  modifyTree (·.insert place last)
  let clone ← cloneElement formatting
  modifyTree fun tree => (tree.moveChildren block clone).insert { parent := block } clone
  moveFormatting formatting clone position
  closeElement formatting
  openInside block clone

/-- Ends the formatting of the given name; `otherwise` says what the end tag does where there is no
such formatting. Each of the rounds takes one block out. -/
def endFormattingNamed (otherwise : Build Unit) (name : Text) : (rounds : Nat) → Build Unit
  | 0 => return
  | rounds + 1 => do
    match ← formattingNamed name with
    | none => otherwise
    | some formatting =>
      let b ← get
      if !b.openElements.contains formatting then endFormatting formatting
      else if !(← isInScope name .general) then otherwise
      else
        let inside := b.openElements.takeWhile (· != formatting)
        match inside.reverse.find? fun id => isSpecial (b.tree.name id) with
        | none =>
          modify fun b =>
            { b with openElements := (b.openElements.dropWhile (· != formatting)).drop 1 }
          endFormatting formatting
        | some block =>
          adopt formatting block
          endFormattingNamed otherwise name rounds

end MarkdownSite.Sanitizer
