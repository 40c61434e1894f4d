import CatalogRecords.Document.Basic
import CatalogRecords.Proofs.Schema.Paths
import Mathlib.Data.List.Chain

/-!
# Flattening

Flattening visits a node, then the nodes in it, then its next sibling. So the paths in it come in
two kinds of neighbours: a node and the first one in it, and the last path of a node and its next
sibling. Where the first kind is always fine, it is enough to look at each list of siblings.
-/

namespace CatalogRecords

/-- Nodes beside each other, and the path that they are in. -/
structure Siblings where
  outer : String
  nodes : List Node

mutual

/-- The lists of siblings somewhere in a node. -/
def Node.siblings (outer : String) : Node → List Siblings
  | .text _ _ => []
  | .group sid nodes => ⟨childPath outer sid, nodes⟩ :: siblingsIn (childPath outer sid) nodes

/-- The lists of siblings somewhere in several nodes. -/
def siblingsIn (outer : String) : List Node → List Siblings
  | [] => []
  | node :: nodes => node.siblings outer ++ siblingsIn outer nodes

end

/-- All lists of siblings: the content itself and what is in each group. -/
def Document.siblings (d : Document) : List Siblings :=
  ⟨d.documentType, d.content⟩ :: siblingsIn d.documentType d.content

/-- The paths of a node and of all nodes in it, in document order. -/
def Node.paths (outer : String) (n : Node) : List String := (n.flatten outer).map FlatEntry.path

/-- The paths of several nodes and of all nodes in them, in document order. -/
def pathsIn (outer : String) (nodes : List Node) : List String :=
  (flattenAll outer nodes).map FlatEntry.path

/-- The path of a node. -/
def Node.path (outer : String) (n : Node) : String := childPath outer n.sid

/-- The path that is visited last in a node. -/
def Node.lastPath (outer : String) (n : Node) : String :=
  (pathsIn (n.path outer) n.nodes).getLastD (n.path outer)

/-- A relation holds between the last path of a node and its next sibling. -/
def Node.Leads (R : String → String → Prop) (outer : String) (n next : Node) : Prop :=
  R (n.lastPath outer) (next.path outer)

variable {outer : String} {n : Node} {nodes : List Node} {entry : FlatEntry} {s : Siblings}

/-- A node is flattened to its own entry and those of the nodes in it. -/
theorem Node.flatten_eq (outer : String) (n : Node) :
    n.flatten outer = ⟨n.path outer, n.sid, n.content⟩ :: flattenAll (n.path outer) n.nodes := by
  cases n with
  | text sid value =>
    rw [flatten, nodes, flattenAll]
    rfl
  | group sid nodes =>
    rw [flatten]
    rfl

/-- Nodes are flattened one after the other. -/
theorem flattenAll_eq_flatMap (outer : String) (nodes : List Node) :
    flattenAll outer nodes = nodes.flatMap (Node.flatten outer) := by
  induction nodes with
  | nil => rw [flattenAll, List.flatMap_nil]
  | cons n nodes ih => rw [flattenAll, List.flatMap_cons, ih]

/-- An entry of several nodes is an entry of one of them. -/
theorem mem_flattenAll : entry ∈ flattenAll outer nodes ↔ ∃ n ∈ nodes, entry ∈ n.flatten outer := by
  rw [flattenAll_eq_flatMap, List.mem_flatMap]

/-- The paths of a node are its own and those of the nodes in it. -/
theorem Node.paths_eq (outer : String) (n : Node) :
    n.paths outer = n.path outer :: pathsIn (n.path outer) n.nodes := by
  rw [paths, flatten_eq]
  rfl

/-- Where there is no node there is no path. -/
@[simp]
theorem pathsIn_nil (outer : String) : pathsIn outer [] = [] := by
  rw [pathsIn, flattenAll, List.map_nil]

/-- The paths of several nodes come one node after the other. -/
theorem pathsIn_cons (outer : String) (n : Node) (nodes : List Node) :
    pathsIn outer (n :: nodes) = n.paths outer ++ pathsIn outer nodes := by
  rw [pathsIn, flattenAll, List.map_append]
  rfl

/-- The first path of several nodes is that of the first node. -/
theorem head?_pathsIn (outer : String) (nodes : List Node) :
    (pathsIn outer nodes).head? = nodes.head?.map (Node.path outer) := by
  cases nodes with
  | nil => rw [pathsIn_nil]; rfl
  | cons n nodes => rw [pathsIn_cons, Node.paths_eq]; rfl

/-! Where the nodes are found again. -/

mutual

/-- The entries of a node are inside the path that the node is in. -/
theorem isInside_of_mem_flatten {outer : String} {entry : FlatEntry} : (n : Node) →
    entry ∈ n.flatten outer → isInside entry.path outer = true
  | .text sid value, hentry => by
    rw [Node.flatten, List.mem_singleton] at hentry
    exact hentry ▸ isInside_iff_exists_childPath.mpr ⟨sid, rfl⟩
  | .group sid nodes, hentry => by
    have hsid : isInside (childPath outer sid) outer = true :=
      isInside_iff_exists_childPath.mpr ⟨sid, rfl⟩
    rw [Node.flatten] at hentry
    rcases List.mem_cons.mp hentry with rfl | hentry
    · exact hsid
    · exact isInside_trans (isInside_of_mem_flattenAll nodes hentry) hsid

/-- The nodes in a path lie inside it. -/
theorem isInside_of_mem_flattenAll {outer : String} {entry : FlatEntry} : (nodes : List Node) →
    entry ∈ flattenAll outer nodes → isInside entry.path outer = true
  | [], hentry => by
    rw [flattenAll] at hentry
    exact absurd hentry List.not_mem_nil
  | n :: nodes, hentry => by
    rw [flattenAll] at hentry
    rcases List.mem_append.mp hentry with hentry | hentry
    · exact isInside_of_mem_flatten n hentry
    · exact isInside_of_mem_flattenAll nodes hentry

end

mutual

/-- The entries of each list of nodes in a node are among its entries. -/
theorem flattenAll_subset_flatten {outer : String} {s : Siblings} : (n : Node) →
    s ∈ n.siblings outer → flattenAll s.outer s.nodes ⊆ n.flatten outer
  | .text _ _, hs => by
    rw [Node.siblings] at hs
    exact absurd hs List.not_mem_nil
  | .group sid nodes, hs => by
    rw [Node.siblings] at hs
    rw [Node.flatten]
    rcases List.mem_cons.mp hs with rfl | hs
    · exact List.subset_cons_self _ _
    · exact List.Subset.trans (flattenAll_subset_flattenAll nodes hs) (List.subset_cons_self _ _)

/-- What is beside each other somewhere in the nodes is visited along with them. -/
theorem flattenAll_subset_flattenAll {outer : String} {s : Siblings} : (nodes : List Node) →
    s ∈ siblingsIn outer nodes → flattenAll s.outer s.nodes ⊆ flattenAll outer nodes
  | [], hs => by
    rw [siblingsIn] at hs
    exact absurd hs List.not_mem_nil
  | n :: nodes, hs => by
    rw [siblingsIn] at hs
    rw [flattenAll]
    rcases List.mem_append.mp hs with hs | hs
    · exact List.Subset.trans (flattenAll_subset_flatten n hs) (List.subset_append_left _ _)
    · exact List.Subset.trans (flattenAll_subset_flattenAll nodes hs) (List.subset_append_right _ _)

end

/-- The entries of each list of nodes in a document are among its entries. -/
theorem Document.flattenAll_subset_flatten {d : Document} (hs : s ∈ d.siblings) :
    flattenAll s.outer s.nodes ⊆ d.flatten := by
  rcases List.mem_cons.mp hs with rfl | hs
  · exact List.Subset.refl _
  · exact flattenAll_subset_flattenAll d.content hs

/-! The last path of a node. -/

/-- The last path of a node with no nodes in it is its own. -/
theorem Node.lastPath_of_nodes_eq_nil (h : n.nodes = []) : n.lastPath outer = n.path outer := by
  rw [lastPath, h, pathsIn_nil]
  rfl

/-- The last path of a node is the last of its paths. -/
theorem Node.getLast?_paths (outer : String) (n : Node) :
    (n.paths outer).getLast? = some (n.lastPath outer) := by
  rw [paths_eq, List.getLast?_cons, lastPath, List.getLastD_eq_getLast?]

/-- The last path of a node is that of some node in it, or its own. -/
theorem Node.exists_path_eq_lastPath (outer : String) (n : Node) :
    ∃ entry ∈ n.flatten outer, entry.path = n.lastPath outer :=
  List.mem_map.mp (List.mem_of_getLast? (n.getLast?_paths outer))

/-- The last path of a node with nodes in it is inside its own. -/
theorem Node.isInside_lastPath (outer : String) (h : n.nodes ≠ []) :
    isInside (n.lastPath outer) (n.path outer) = true := by
  obtain ⟨first, rest, hnodes⟩ := List.exists_cons_of_ne_nil h
  have hne : pathsIn (n.path outer) n.nodes ≠ [] := by
    rw [hnodes, pathsIn_cons, paths_eq]
    exact List.cons_ne_nil _ _
  obtain ⟨entry, hentry, hpath⟩ := List.mem_map.mp (List.getLast_mem hne)
  rw [lastPath, List.getLastD_eq_getLast?, List.getLast?_eq_some_getLast hne, Option.getD_some]
  exact hpath ▸ isInside_of_mem_flattenAll n.nodes hentry

/-- The last path of a node continues its own. -/
theorem Node.path_prefix_lastPath (outer : String) (n : Node) :
    segments (n.path outer) <+: segments (n.lastPath outer) := by
  rw [segments_prefix_iff]
  by_cases hnodes : n.nodes = []
  · exact Or.inl (lastPath_of_nodes_eq_nil hnodes)
  · exact Or.inr (isInside_lastPath outer hnodes)

/-! What follows what. -/

/-- Where two paths are of a kind and one is directly inside the other, they are related. -/
def PassesDown (R : String → String → Prop) (D : String → Prop) : Prop :=
  ∀ outer sid, D outer → D (childPath outer sid) → R outer (childPath outer sid)

variable {R : String → String → Prop} {D : String → Prop}

mutual

/-- The paths of a node are related one to the next exactly if that is so in each list of nodes in
it, each node leading to the next by its last path. -/
theorem isChain_paths_iff (hdown : PassesDown R D) {outer : String} : (n : Node) →
    (∀ path ∈ n.paths outer, D path) →
    ((n.paths outer).IsChain R ↔ ∀ s ∈ n.siblings outer, s.nodes.IsChain (Node.Leads R s.outer))
  | .text sid value, _ => by
    rw [Node.paths_eq, Node.nodes, pathsIn_nil, Node.siblings]
    exact iff_of_true (List.IsChain.singleton _) (List.forall_mem_nil _)
  | .group sid nodes, hD => by
    rw [Node.paths_eq, List.forall_mem_cons] at hD
    rw [Node.paths_eq, Node.siblings, List.forall_mem_cons, List.isChain_cons,
      isChain_pathsIn_iff hdown _ hD.2]
    refine and_iff_right fun path hpath => ?_
    have hpath' := hD.2 path (List.mem_of_mem_head? hpath)
    rw [head?_pathsIn] at hpath
    obtain ⟨first, -, rfl⟩ := Option.map_eq_some_iff.mp hpath
    exact hdown _ _ hD.1 hpath'

/-- A relation holds between neighbouring paths if it does so between siblings and, inside a node,
between its path and that of what comes first in it. -/
theorem isChain_pathsIn_iff (hdown : PassesDown R D) {outer : String} : (nodes : List Node) →
    (∀ path ∈ pathsIn outer nodes, D path) →
    ((pathsIn outer nodes).IsChain R ↔
      nodes.IsChain (Node.Leads R outer) ∧
      ∀ s ∈ siblingsIn outer nodes, s.nodes.IsChain (Node.Leads R s.outer))
  | [], _ => by
    rw [pathsIn_nil, siblingsIn]
    exact iff_of_true List.IsChain.nil ⟨List.IsChain.nil, List.forall_mem_nil _⟩
  | n :: nodes, hD => by
    -- The one new pair of neighbours is the last path of `n` and the first one after it.
    have hleads : (∀ last ∈ (n.paths outer).getLast?, ∀ path ∈ (pathsIn outer nodes).head?,
        R last path) ↔ ∀ next ∈ nodes.head?, n.Leads R outer next := by
      rw [Node.getLast?_paths, head?_pathsIn]
      simp [Node.Leads]
    rw [pathsIn_cons, List.forall_mem_append] at hD
    rw [pathsIn_cons, List.isChain_append, isChain_paths_iff hdown n hD.1,
      isChain_pathsIn_iff hdown nodes hD.2, hleads, siblingsIn, List.forall_mem_append,
      List.isChain_cons]
    tauto

end

/-- A relation holds between neighbouring paths of a document if it does so in each list of
siblings. -/
theorem Document.isChain_map_path_iff {d : Document} (hdown : PassesDown R D)
    (hD : ∀ entry ∈ d.flatten, D entry.path) :
    (d.flatten.map FlatEntry.path).IsChain R ↔
      ∀ s ∈ d.siblings, s.nodes.IsChain (Node.Leads R s.outer) := by
  rw [siblings, List.forall_mem_cons]
  exact isChain_pathsIn_iff hdown d.content (List.forall_mem_map.mpr hD)

end CatalogRecords
