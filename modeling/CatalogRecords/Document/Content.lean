import CatalogRecords.Schema.DocumentType

/-!
# The content of documents

The content of a document is a forest of nodes, each named by an identifier and holding a text or
further nodes. There are two ways of reading it: `flatten` lists every node with its path, in
document order, and `contentsIn` goes down a path and gives what the nodes at its end hold.
-/

namespace CatalogRecords

/-- A node of a document. -/
inductive Node where
  | text (sid value : String)
  | group (sid : String) (nodes : List Node)
  deriving Repr

/-- What a node holds. -/
inductive Content where
  | text (value : String)
  | group (nodes : List Node)
  deriving Repr

namespace Content

/-- The text, when it is one. -/
def text? : Content → Option String
  | text value => some value
  | group _ => none

/-- Whether there is nothing in it. -/
def isEmpty : Content → Bool
  | text value => value.isEmpty
  | group nodes => nodes.isEmpty

end Content

namespace Node

/-- The identifier of a node. -/
def sid : Node → String
  | text sid _ => sid
  | group sid _ => sid

/-- What a node holds. -/
def content : Node → Content
  | text _ value => .text value
  | group _ nodes => .group nodes

/-- The nodes that a node holds. -/
def nodes : Node → List Node
  | text _ _ => []
  | group _ nodes => nodes

end Node

/-- A node with its path, in a list of all nodes. -/
structure FlatEntry where
  path : String
  sid : String
  content : Content

mutual

/-- A node and the nodes in it with their paths, in document order. -/
def Node.flatten (outer : String) : Node → List FlatEntry
  | .text sid value => [⟨childPath outer sid, sid, .text value⟩]
  | .group sid nodes =>
    ⟨childPath outer sid, sid, .group nodes⟩ :: flattenAll (childPath outer sid) nodes

/-- Several nodes and the nodes in them with their paths, in document order. -/
def flattenAll (outer : String) : List Node → List FlatEntry
  | [] => []
  | node :: nodes => node.flatten outer ++ flattenAll outer nodes

end

/-- What the nodes hold that are reached by identifiers going down, in document order. -/
def contentsIn (nodes : List Node) : List String → List Content
  | [] => []
  | [sid] => (nodes.filter fun node => node.sid == sid).map Node.content
  | sid :: sids => (nodes.filter fun node => node.sid == sid).flatMap fun node =>
      contentsIn node.nodes sids

end CatalogRecords
