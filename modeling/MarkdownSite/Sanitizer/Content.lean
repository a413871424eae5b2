import MarkdownSite.Sanitizer.Adoption

/-!
# Content outside of tables

What tags and text mean outside of tables, in cells and in captions.
-/

namespace MarkdownSite.Sanitizer

/-! ## Text -/

/-- Text as content: it stands in the formatting in force. -/
def addContentText (t : Text) : Build Unit := do
  reopenFormatting
  insertText t

/-- White space as content. A line feed right after the tag of preformatted text is left out. -/
def addContentSpaces (t : Text) : Build Unit := do
  let b ← get
  set { b with dropsLineFeed := false }
  let name := String.ofList (← currentName)
  let isStart := b.dropsLineFeed && ["pre", "listing", "textarea"].contains name
    && (b.tree.children (← current)).isEmpty
  match t with
  | '\n' :: rest =>
    if !isStart then addContentText t
    else if !rest.isEmpty then addContentText rest
  | t => addContentText t

/-! ## End tags -/

/-- Any other end tag: it closes the innermost element of its name, unless that stands outside of a
special one. -/
def endOther (name : Text) : Build Unit := do
  let found := (← openNames).find? fun other => other == name || isSpecial other
  if found == some name then
    closeImplied (some name)
    popThrough (· == name)

/-- The end of an element that is in scope: it closes everything in it. -/
def endInScope (name : Text) (scope : Scope) (implied : Option Text) : Build Unit := do
  if ← isInScope name scope then
    closeImplied implied
    popThrough (· == name)

/-- The end of a paragraph; if none is open there is an empty one. -/
def endParagraph : Build Unit := do
  if !(← isInScope "p" .button) then
    let _ ← insertElement { name := "p" }
  endInScope "p" .button (some "p")

/-- Closes the open paragraph, if there is one. -/
def closeParagraph : Build Unit := do
  if ← isInScope "p" .button then endParagraph

/-- The end of a heading, which closes any open heading. -/
def endHeading : Build Unit := do
  let isHeading (name : Text) : Bool := headingElements.contains name
  if ← isInScopeWhere .general fun _ name => isHeading name then
    closeImplied none
    popThrough isHeading

/-- The end of the form that is open. -/
def endForm : Build Unit := do
  let form := (← get).form
  modify fun b => { b with form := none }
  if let some form := form then
    if ← isInScopeWhere .general fun id _ => id == form then
      closeImplied none
      closeElement form

/-- Opens and closes an element without content in running text. -/
def addInlineVoid (tag : StartTag) : Build Unit := do
  reopenFormatting
  insertVoid tag

/-- An end tag as content. -/
def endContent (name : Text) : Build Unit := do
  if name == "p".toList then endParagraph
  else if name == "li".toList then endInScope name .list (some name)
  else if name == "dd".toList || name == "dt".toList then endInScope name .general (some name)
  else if name == "form".toList then endForm
  else if name == "br".toList then addInlineVoid { name }
  else if name == "body".toList || name == "html".toList then return
  else if name == "a".toList || name == "nobr".toList || formattingElements.contains name then
    endFormattingNamed (endOther name) name 8
  else if headingElements.contains name then endHeading
  else if objectElements.contains name then
    if ← isInScope name .general then
      endInScope name .general none
      clearToMarker
  else if blockElements.contains name then
    if name == "pre".toList then modify fun b => { b with dropsLineFeed := false }
    endInScope name .general none
  else endOther name

/-- An end tag that a start tag stands for. In a table, content goes into it from then on. -/
def endBefore (name : Text) : Build Unit := do
  endContent name
  if [Mode.table, .tableBody, .row].contains (← get).mode then
    modify fun b => { b with fosters := false }

/-! ## Start tags -/

/-- Opens an element in the formatting in force. -/
def addInline (tag : StartTag) : Build Unit := do
  reopenFormatting
  let _ ← insertElement tag

/-- Opens an element that ends a paragraph. -/
def addBlock (tag : StartTag) : Build ElementId := do
  closeParagraph
  insertElement tag

/-- Opens an element whose content is no markup. -/
def addVerbatim (tag : StartTag) : Build Unit := do
  let _ ← insertElement tag
  setMode (.verbatim (← get).mode)

/-- Opens an item of a list, and closes the one before it. -/
def addItem (tag : StartTag) : Build Unit := do
  let before : List Text := if tag.name == "li".toList then ["li"] else ["dt", "dd"]
  let found := (← openNames).find? fun name =>
    before.contains name
      || (isSpecial name && !(["address", "div", "p"].contains (String.ofList name)))
  if let some name := found then
    if before.contains name then endBefore name
  if ← isInScope "p" .button then endBefore "p"
  let _ ← insertElement tag

/-- Opens a link, and ends the one in force. -/
def addLink (tag : StartTag) : Build Unit := do
  if let some link ← formattingNamed "a" then
    endContent "a"
    closeElement link
    endFormatting link
  reopenFormatting
  insertFormatting tag

/-- Opens a heading; a heading right inside of another one closes it. -/
def addHeading (tag : StartTag) : Build Unit := do
  closeParagraph
  if headingElements.contains (← currentName) then pop
  let _ ← insertElement tag

/-- Opens a form, unless one is open. -/
def addForm (tag : StartTag) : Build Unit := do
  if (← get).form.isNone then
    let form ← addBlock tag
    modify fun b => { b with form := some form }

/-- Opens the text beside a ruby base. -/
def addRubyText (tag : StartTag) : Build Unit := do
  if ← isInScope "ruby" .general then closeImplied none
  let _ ← insertElement tag

/-- Start tags with a rule of their own. -/
def startSpecial? (tag : StartTag) : Option (Build Unit) :=
  match String.ofList tag.name with
  | "a" => some (addLink tag)
  | "table" => some do
    let _ ← addBlock tag
    setMode .table
  | "li" | "dd" | "dt" => some (addItem tag)
  | "hr" => some do
    let _ ← addBlock tag
    pop
  | "pre" | "listing" => some do
    let _ ← addBlock tag
    modify fun b => { b with dropsLineFeed := true }
  | "textarea" => some do
    modify fun b => { b with dropsLineFeed := true }
    addVerbatim tag
  | "title" => some (addVerbatim tag)
  | "xmp" => some do
    closeParagraph
    reopenFormatting
    addVerbatim tag
  | "form" => some (addForm tag)
  | "image" => some (addInlineVoid { tag with name := "img" })
  | "nobr" => some do
    reopenFormatting
    if ← isInScope "nobr" .general then
      endContent "nobr"
      reopenFormatting
    insertFormatting tag
  | "button" => some do
    endInScope "button" .general none
    addInline tag
  | "option" | "optgroup" => some do
    if (← currentName) == "option".toList then endBefore "option"
    addInline tag
  | "rp" | "rt" => some (addRubyText tag)
  | "html" | "body" | "frameset" => some (return)
  | _ => none

/-- A start tag as content. Parts of tables mean nothing outside of them. -/
def startContent (tag : StartTag) : Build Unit := do
  let name := tag.name
  match startSpecial? tag with
  | some start => start
  | none =>
    if paragraphEnders.contains name then
      let _ ← addBlock tag
    else if headingElements.contains name then addHeading tag
    else if formattingElements.contains name then
      reopenFormatting
      insertFormatting tag
    else if inlineVoidElements.contains name then addInlineVoid tag
    else if metadataElements.contains name then insertVoid tag
    else if verbatimElements.contains name then addVerbatim tag
    else if objectElements.contains name then
      addInline tag
      addMarker
    else if tablePartElements.contains name then return
    else addInline tag

end MarkdownSite.Sanitizer
