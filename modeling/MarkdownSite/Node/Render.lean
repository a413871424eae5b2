import MarkdownSite.Node.Handlers
import MarkdownSite.Url.Percent

/-!
# Rendering of nodes

A node is rendered by the handler for its kind, or else by the rule for its kind; the nodes inside
come first. Links whose text is their own address are autolinks, and smart punctuation does not
touch their text.
-/

namespace MarkdownSite

/-- What renders the nodes of one document. -/
structure NodeRenderer where
  /-- The handlers. -/
  handlers : Handlers
  /-- The rules for kinds without a handler. -/
  rules : Handlers := basicRules

/-- The renderer that a page starts with, with some handlers replaced. -/
def NodeRenderer.ofPage (page : Page) (replaced : Handlers) : NodeRenderer where
  handlers := replaced ++ pageHandlers page

namespace Node

/-- The address that stands as the text of an autolink, if the node is one: a link without a title
whose only child is a text and leads where the text says, or to the mail address that it says. -/
def autolinkText? (node : Node) : Option Text :=
  if (node.attributeValue "title").isTruthy then none
  else
    match node.children with
    | [child] =>
      if child.kind = String.toList "text" then
        let address := match child with
          | raw _ _ content => content
          | _ => []
        let leadsTo (t : Text) : Bool :=
          match (node.attributes.get? "url").getD (.text []) with
          | .text url => url == Url.target t
          | _ => false
        if leadsTo address || leadsTo (mailScheme ++ address) then some address else none
      else none
    | _ => none

/-- Whether a link is an address that stands as text. -/
def isAutolink (node : Node) : Bool := node.autolinkText?.isSome

/-- The attributes of an autolink, which say that it is one. -/
def autolinkAttributes (node : Node) : Entries := node.attributes.insert "autolink" (.bool true)

end Node

mutual

/-- The HTML of a node. -/
def renderNode (r : NodeRenderer) (node : Node) : RenderM Text := do
  match r.handlers.get? node.kind with
  | some handle =>
    match if node.kind = String.toList "link" then node.autolinkText? else none with
    | some address =>
      handle { positional := [.text (renormalize address)], named := node.autolinkAttributes }
    | none => renderContent r handle node
  | none =>
    match r.rules.get? node.kind with
    | some rule => renderContent r rule node
    | none => throw (.noRule node.kind)

/-- The HTML that a handler makes of a node, after the nodes inside are rendered. -/
def renderContent (r : NodeRenderer) (handle : Handler) (node : Node) : RenderM Text := do
  match node with
  | .leaf _ attributes => handle { named := attributes }
  | .raw _ attributes content => handle { positional := [.text content], named := attributes }
  | .parent _ attributes children =>
    handle { positional := [.text (← renderNodes r children)], named := attributes }

/-- The HTML of nodes one after another. -/
def renderNodes (r : NodeRenderer) (nodes : List Node) : RenderM Text := do
  match nodes with
  | [] => return []
  | node :: rest => return (← renderNode r node) ++ (← renderNodes r rest)

end

end MarkdownSite
