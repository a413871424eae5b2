import MarkdownSite.Value.Basic

/-!
# Sanitizer policies

A policy says which elements, attributes, URL schemes and style properties a page may have, and
what happens to the rest. The default policy lets pass what rendering produces.
-/

namespace MarkdownSite.Sanitizer

/-- The attributes allowed on elements by name; the star stands for every element. -/
abbrev AttributeTable := List (Text × List Text)

/-- What HTML may have. -/
structure Policy where
  /-- The elements that are kept. -/
  tags : List Text
  /-- The attributes that are kept. -/
  attributes : AttributeTable
  /-- The schemes that URLs may have. -/
  protocols : List Text
  /-- The properties that styles may set. -/
  cssProperties : List Text
  /-- Tags of other elements are removed; else they are shown as text. -/
  strip : Bool := true
  /-- Comments are removed. -/
  stripComments : Bool := true
  deriving DecidableEq, Repr

/-- The elements allowed by default. -/
def defaultTags : List Text :=
  List.map String.toList ["a", "abbr", "b", "blockquote", "br", "code", "dd", "del", "div", "dl",
    "dt", "em", "figcaption", "figure", "h1", "h2", "h3", "h4", "h5", "h6", "hr", "i", "img",
    "input", "li", "ol", "p", "pre", "span", "strong", "sub", "sup", "table", "tbody", "td", "th",
    "thead", "tr", "ul"]

/-- The attributes allowed by default. -/
def defaultAttributes : AttributeTable :=
  [("a", ["href", "title", "rel", "target", "class"]),
    ("img", ["src", "alt", "title", "loading", "width", "height"]),
    ("input", ["type", "checked", "disabled"]),
    ("figcaption", ["aria-hidden"]),
    ("code", ["class"]),
    ("span", ["class"]),
    ("li", ["style"]),
    ("td", ["align", "style"]),
    ("th", ["align", "style"]),
    ("*", ["id"])]

/-- The URL schemes allowed by default. -/
def defaultProtocols : List Text := ["http", "https", "mailto", "ftp", "tel"]

/-- The style properties allowed by default. -/
def defaultCssProperties : List Text := ["list-style", "text-align"]

/-- The names with those of `extra` after them, each name that is missing put in once. -/
def addNames (names extra : List Text) : List Text :=
  extra.foldl (fun names name => if names.contains name then names else names ++ [name]) names

/-- The table with one more list of names for an element. -/
def AttributeTable.addEntry (table : AttributeTable) (tag : Text) (extra : List Text) :
    AttributeTable :=
  if (table.lookup tag).isSome then
    table.map fun (t, names) => (t, if t == tag then addNames names extra else names)
  else table ++ [(tag, addNames [] extra)]

/-- The table with the names of another one added to its own. -/
def AttributeTable.merge (base extra : AttributeTable) : AttributeTable :=
  extra.foldl (fun table (tag, names) => table.addEntry tag names) base

/-- Why values give no policy. -/
inductive PolicyError where
  /-- A value of this kind holds no names. -/
  | notIterable (kindName : Text)
  /-- A value of this kind, which a collection of names cannot hold. -/
  | notHashable (kindName : Text)
  /-- A value of this kind is no table of attributes. -/
  | notMapping (kindName : Text)
  deriving DecidableEq, Repr

/-- The values that a value holds: the items of a list, the keys of a mapping, the characters of a
text. -/
def itemsOf : Value → Except PolicyError (List Value)
  | .list items => .ok items
  | .map entries => .ok (entries.map fun (key, _) => .text key)
  | .text t => .ok (t.map fun c => .text [c])
  | v => .error (.notIterable v.kindName)

/-- The texts among values. -/
def textsOf (items : List Value) : List Text :=
  items.filterMap fun
    | .text t => some t
    | _ => none

/-- The names that a value holds; lists and mappings are no names. -/
def namesOf (v : Value) : Except PolicyError (List Text) := do
  let items ← itemsOf v
  match items.find? fun
    | .list _ | .map _ => true
    | _ => false with
  | some item => throw (.notHashable item.kindName)
  | none => return textsOf items

/-- The table of attributes that the entries of a mapping give. -/
def tableOfEntries : Entries → Except PolicyError AttributeTable
  | [] => .ok []
  | (tag, names) :: rest => do
    return (tag, textsOf (← itemsOf names)) :: (← tableOfEntries rest)

/-- The table of attributes that a value gives. -/
def tableOf : Value → Except PolicyError AttributeTable
  | .map entries => tableOfEntries entries
  | v => .error (.notMapping v.kindName)

/-- What an option gives, or the value that stands for a missing one. -/
def readOption {α : Type} (options : Entries) (key : Text) (read : Value → Except PolicyError α)
    (other : α) : Except PolicyError α :=
  match options.get? key with
  | some v => read v
  | none => .ok other

/-- Whether an option is set; one that is missing is. -/
def flagOption (options : Entries) (key : Text) : Bool :=
  ((options.get? key).getD (.bool true)).isTruthy

/-- The elements that options add. -/
def addedTags (options : Entries) : Except PolicyError (List Text) :=
  readOption options "add_tags" namesOf []

/-- The attributes that options add; a value that counts as false adds none. -/
def addedAttributes (options : Entries) : Except PolicyError AttributeTable :=
  readOption options "add_attributes" (fun v => if v.isTruthy then tableOf v else .ok []) []

/-- The elements that options allow: those given or the default ones, and the added ones. -/
def allowedTags (options : Entries) : Except PolicyError (List Text) := do
  let given ← readOption options "tags" namesOf defaultTags
  let added ← addedTags options
  return addNames given added

/-- The attributes that options allow: those given or the default ones, and the added ones. -/
def allowedAttributes (options : Entries) : Except PolicyError AttributeTable := do
  let given ← readOption options "attributes" tableOf defaultAttributes
  let added ← addedAttributes options
  return given.merge added

namespace Policy

/-- The policy that lets pass what rendering produces. -/
def standard : Policy where
  tags := defaultTags
  attributes := defaultAttributes
  protocols := defaultProtocols
  cssProperties := defaultCssProperties

/-- The policy that options give. -/
def ofOptions (options : Entries) : Except PolicyError Policy := do
  let tags ← allowedTags options
  let attributes ← allowedAttributes options
  let cssProperties ← readOption options "css_properties" namesOf defaultCssProperties
  let protocols ← readOption options "protocols" namesOf defaultProtocols
  return {
    tags
    attributes
    protocols
    cssProperties
    strip := flagOption options "strip"
    stripComments := flagOption options "strip_comments" }

/-- The policy that a value asks for: a mapping gives options, and anything else the standard
policy. -/
def ofValue : Value → Except PolicyError Policy
  | .map options => ofOptions options
  | _ => .ok standard

/-- Whether an attribute may stand on an element. -/
def allowsAttribute (policy : Policy) (tag name : Text) : Bool :=
  let isListed (key : Text) : Bool := ((policy.attributes.lookup key).getD []).contains name
  isListed tag || isListed "*"

end Policy

end MarkdownSite.Sanitizer
