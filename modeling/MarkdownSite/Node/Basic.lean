import MarkdownSite.Value.Basic

/-!
# Document nodes

A parsed document is a list of trees. The kind of a node is a name, so that kinds may be added; its
attributes are values by name.
-/

namespace MarkdownSite

/-- A node of a document. -/
inductive Node where
  /-- A node without content. -/
  | leaf (kind : Text) (attributes : Entries)
  /-- A node whose content is text as it stands in the document. -/
  | raw (kind : Text) (attributes : Entries) (content : Text)
  /-- A node with nodes inside. -/
  | parent (kind : Text) (attributes : Entries) (children : List Node)
  deriving Repr, Inhabited

namespace Node

/-- The kind of a node. -/
def kind : Node → Text
  | leaf kind _ => kind
  | raw kind _ _ => kind
  | parent kind _ _ => kind

/-- The attributes of a node. -/
def attributes : Node → Entries
  | leaf _ attributes => attributes
  | raw _ attributes _ => attributes
  | parent _ attributes _ => attributes

/-- The nodes inside a node. -/
def children : Node → List Node
  | parent _ _ children => children
  | _ => []

/-- The attribute with a name, null if there is none. -/
def attributeValue (node : Node) (name : Text) : Value := (node.attributes.get? name).getD .null

/-- A run of text. -/
def text (content : Text) : Node := raw "text" [] content

end Node

end MarkdownSite
