import MarkdownSite.Sanitizer.Content

/-!
# Content of tables

What tags mean inside of a table. A tag may close the part of the table that it does not belong
to; it is then read again, and means what it means in the part around that one.
-/

namespace MarkdownSite.Sanitizer

/-- Whether a tag is to be read again. -/
abbrev IsReadAgain := Bool

/-- Whether a name is one of the given ones. -/
def isOneOf (names : List Text) (name : Text) : Bool := names.contains name

/-- Closes open elements up to one of the given names. -/
def closeTo (names : List Text) : Build Unit := popUntil (isOneOf names)

/-- Opens a part of a table, which is entered. -/
def openPart (context : List Text) (tag : StartTag) (mode : Mode) : Build Unit := do
  closeTo context
  let _ ← insertElement tag
  setMode mode

/-- What an open element says about where reading stands. -/
def modeOf? (name : Text) : Option Mode :=
  match String.ofList name with
  | "td" | "th" => some .cell
  | "tr" => some .row
  | "tbody" | "thead" | "tfoot" => some .tableBody
  | "caption" => some .caption
  | "colgroup" => some .columnGroup
  | "table" => some .table
  | _ => none

/-- Enters the mode that the open elements ask for. -/
def resetMode : Build Unit := do
  setMode (((← openNames).findSome? modeOf?).getD .body)

/-! ## The ends of the parts -/

/-- Closes the table. -/
def closeTable : Build Unit := do
  if ← isInScope "table" .table then
    closeImplied none
    popThrough (· == "table".toList)
    resetMode

/-- Closes the caption: whether there is one. -/
def closeCaption : Build Bool := do
  if ← isInScope "caption" .table then
    closeImplied none
    popThrough (· == "caption".toList)
    clearToMarker
    setMode .table
    return true
  return false

/-- Closes the group of columns. -/
def closeColumns : Build Unit := do
  pop
  setMode .table

/-- Closes the group of rows: whether there is one. -/
def closeRows : Build Bool := do
  if ← isInScopeWhere .table fun _ name => rowGroupElements.contains name then
    closeTo rowGroupElements
    pop
    setMode .table
    return true
  return false

/-- Closes the row: whether there is one. -/
def closeRow : Build Bool := do
  if ← isInScope "tr" .table then
    closeTo ["tr"]
    pop
    setMode .tableBody
    return true
  return false

/-- Closes a cell of the given name: whether there is one. -/
def closeCell (name : Text) : Build Bool := do
  if ← isInScope name .table then
    closeImplied (some name)
    popThrough (· == name)
    clearToMarker
    setMode .row
    return true
  return false

/-- Closes the cell, of either kind: whether there is one. -/
def closeAnyCell : Build Bool := do
  if ← closeCell "td" then return true
  closeCell "th"

/-! ## Tags in a table -/

/-- A table in a table closes the innermost part that is open, and is left out. -/
def closeForTable : Build Unit := do
  match (← get).mode with
  | .tableBody =>
    let _ ← closeRows
  | .row =>
    let _ ← closeRow
  | _ => closeTable

/-- A start tag directly in a table. What does not belong into one goes before it. -/
def startInTable (tag : StartTag) : Build IsReadAgain := do
  let context : List Text := ["table"]
  let isHidden := (tag.attributes.lookup "type".toList).any fun t =>
    Text.asciiLower t == "hidden".toList
  match String.ofList tag.name with
  | "caption" =>
    closeTo context
    addMarker
    openPart context tag .caption
    return false
  | "colgroup" =>
    openPart context tag .columnGroup
    return false
  | "col" =>
    openPart context { name := "colgroup" } .columnGroup
    return true
  | "tbody" | "tfoot" | "thead" =>
    openPart context tag .tableBody
    return false
  | "td" | "th" | "tr" =>
    openPart context { name := "tbody" } .tableBody
    return true
  | "table" =>
    closeForTable
    return false
  | "style" | "script" =>
    addVerbatim tag
    return false
  | "form" =>
    if (← get).form.isNone then
      let form ← insertElement tag
      modify fun b => { b with form := some form }
      pop
    return false
  | "input" =>
    if isHidden then insertVoid tag else fostering (startContent tag)
    return false
  | _ =>
    fostering (startContent tag)
    return false

/-- An end tag directly in a table. -/
def endInTable (name : Text) : Build IsReadAgain := do
  if name == "table".toList then closeTable
  else if isOneOf ["body", "caption", "col", "colgroup", "html", "tbody", "td", "tfoot", "th",
      "thead", "tr"] name then
    pure ()
  else fostering (endContent name)
  return false

/-- A start tag in a caption. -/
def startInCaption (tag : StartTag) : Build IsReadAgain := do
  if tablePartElements.contains tag.name && !isOneOf ["frame", "head"] tag.name then closeCaption
  else
    startContent tag
    return false

/-- An end tag in a caption. -/
def endInCaption (name : Text) : Build IsReadAgain := do
  if name == "table".toList then closeCaption
  else
    if name == "caption".toList then
      let _ ← closeCaption
    else if !isOneOf ["body", "col", "colgroup", "html", "tbody", "td", "tfoot", "th", "thead",
        "tr"] name then
      endContent name
    return false

/-- A start tag in a group of columns. -/
def startInColumns (tag : StartTag) : Build IsReadAgain := do
  if tag.name == "col".toList then
    insertVoid tag
    return false
  else
    closeColumns
    return true

/-- An end tag in a group of columns. -/
def endInColumns (name : Text) : Build IsReadAgain := do
  if name == "col".toList then return false
  closeColumns
  return name != "colgroup".toList

/-- A start tag in a group of rows. -/
def startInRows (tag : StartTag) : Build IsReadAgain := do
  if tag.name == "tr".toList then
    openPart rowGroupElements tag .row
    return false
  else if cellElements.contains tag.name then
    openPart rowGroupElements { name := "tr" } .row
    return true
  else if isOneOf ["caption", "col", "colgroup", "tbody", "tfoot", "thead"] tag.name then closeRows
  else startInTable tag

/-- An end tag in a group of rows. -/
def endInRows (name : Text) : Build IsReadAgain := do
  if rowGroupElements.contains name then
    if ← isInScope name .table then
      let _ ← closeRows
    return false
  else if name == "table".toList then closeRows
  else if isOneOf ["body", "caption", "col", "colgroup", "html", "td", "th", "tr"] name then
    return false
  else endInTable name

/-- A start tag in a row. -/
def startInRow (tag : StartTag) : Build IsReadAgain := do
  if cellElements.contains tag.name then
    openPart ["tr"] tag .cell
    addMarker
    return false
  else if isOneOf ["caption", "col", "colgroup", "tbody", "tfoot", "thead", "tr"] tag.name then
    closeRow
  else startInTable tag

/-- An end tag in a row. -/
def endInRow (name : Text) : Build IsReadAgain := do
  if name == "tr".toList then
    let _ ← closeRow
    return false
  else if name == "table".toList then closeRow
  else if rowGroupElements.contains name then
    if ← isInScope name .table then
      let _ ← closeRow
      return true
    return false
  else if isOneOf ["body", "caption", "col", "colgroup", "html", "td", "th"] name then return false
  else endInTable name

/-- A start tag in a cell. -/
def startInCell (tag : StartTag) : Build IsReadAgain := do
  if tablePartElements.contains tag.name && !isOneOf ["frame", "head"] tag.name then closeAnyCell
  else
    startContent tag
    return false

/-- An end tag in a cell. -/
def endInCell (name : Text) : Build IsReadAgain := do
  if cellElements.contains name then
    let _ ← closeCell name
    return false
  else if isOneOf ["body", "caption", "col", "colgroup", "html"] name then return false
  else if fosteringElements.contains name then
    if ← isInScope name .table then closeAnyCell else return false
  else
    endContent name
    return false

end MarkdownSite.Sanitizer
