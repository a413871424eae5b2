import MarkdownSite.Value.Shown

/-!
# Options for external links

Whether links out of the site open a new tab, whether search engines are told not to follow them,
and which hosts count as part of the site.
-/

namespace MarkdownSite

/-- Why the value of an option cannot be used. -/
inductive OptionError where
  /-- The excluded hosts are given by a value that holds no others. -/
  | excludeNotIterable (kind : Text)
  /-- The letter case of ids is given by an infinite number. -/
  | infiniteTransform
  /-- An update or a constructor names no field. -/
  | unknownField (name : Text)
  /-- A layer is neither a mapping nor options. -/
  | badLayer (kind : Text)
  deriving DecidableEq, Repr

/-- What happens to links out of the site. -/
structure ExternalLinkOptions where
  /-- They open a new tab. -/
  enable : Bool := false
  /-- Hosts that count as part of the site. -/
  exclude : List Text := []
  /-- Search engines are told not to follow them. -/
  nofollow : Bool := false
  deriving DecidableEq, Repr

/-- The excluded hosts that a value names: one text, the values of a list or the keys of a
mapping. -/
def excludedHosts (v : Value) : Except OptionError (List Text) :=
  if !v.isTruthy then .ok []
  else
    match v with
    | .text t => .ok [t]
    | .list items => .ok (items.map Value.toText)
    | .map entries => .ok (entries.map Prod.fst)
    | v => .error (.excludeNotIterable v.kindName)

namespace ExternalLinkOptions

/-- Whether external links are treated in any way. -/
def isActive (o : ExternalLinkOptions) : Bool := o.enable || o.nofollow

/-- The options with the given fields; a field that is missing has its default. -/
def ofFields (fields : Entries) : Except OptionError ExternalLinkOptions := do
  let exclude ← excludedHosts ((fields.get? "exclude").getD .null)
  return {
    enable := ((fields.get? "enable").getD .null).isTruthy
    exclude
    nofollow := ((fields.get? "nofollow").getD .null).isTruthy }

/-- The options that a value stands for: a mapping gives the fields, any other value whether links
open a new tab. -/
def ofValue : Value → Except OptionError ExternalLinkOptions
  | .map fields => ofFields fields
  | v => .ok { enable := v.isTruthy }

/-- The fields as a mapping. -/
def toFields (o : ExternalLinkOptions) : Entries :=
  [("enable", .bool o.enable), ("exclude", .list (o.exclude.map .text)),
    ("nofollow", .bool o.nofollow)]

/-- The options as a value. -/
def toValue (o : ExternalLinkOptions) : Value := .map o.toFields

/-- The options with some fields replaced. -/
def update (o : ExternalLinkOptions) (fields : Entries) : Except OptionError ExternalLinkOptions :=
  match fields.find? fun (name, _) => (o.toFields.get? name).isNone with
  | some (name, _) => .error (.unknownField name)
  | none => ofFields (o.toFields.merge fields)

end ExternalLinkOptions

end MarkdownSite
