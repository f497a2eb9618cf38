import ProviderBindings.Graph.Forest

/-!
The graph of an entity: its forest of shapes laid out as a list of nodes in pre-order, in which shapes
refer to their children by position. Every node has a unique name, at first its own.
-/

namespace ProviderBindings

structure Node where
  name : String
  /-- The names of the enclosing nodes, outermost first. -/
  ancestors : List String
  uniqueName : String
  /-- The number of ancestors that the unique name contains. -/
  uniqueDepth : Nat
  leaves : List Leaf
  children : List Nat
  traits : Traits
  deriving Repr, Inhabited

/-- Whether the parent holds one optional instance and no collection. -/
def Node.isSingular (n : Node) : Bool := n.traits.nesting.all (· == .single)

def Node.path (n : Node) : List String := n.ancestors ++ [n.name]

structure Graph where
  leaves : List Leaf
  children : List Nat
  nodes : List Node
  deriving Repr, Inhabited

/-- Nodes laid out from some position on: the positions of the roots and all nodes in pre-order. -/
structure Arena where
  roots : List Nat
  nodes : List Node

namespace Graph

mutual
def layBranch (ancestors : List String) (start : Nat) : Branch → List Node
  | .node name traits leaves children =>
      let below := layForest (ancestors ++ [name]) (start + 1) children
      ⟨name, ancestors, name, 0, leaves, below.roots, traits⟩ :: below.nodes

/-- Lays out branches one after another; `start` is the position of the first. -/
def layForest (ancestors : List String) (start : Nat) : List Branch → Arena
  | [] => ⟨[], []⟩
  | b :: rest =>
      let first := layBranch ancestors start b
      let others := layForest ancestors (start + first.length) rest
      ⟨start :: others.roots, first ++ others.nodes⟩
end

def ofMembers (m : Members) : Graph :=
  let arena := layForest [] 0 m.children
  ⟨m.leaves, arena.roots, arena.nodes⟩

def ofBlock (block : Schema.Block) : Except GraphError Graph :=
  (Members.ofBlock [] block).map ofMembers

def nodesAt (g : Graph) (positions : List Nat) : List Node := positions.filterMap fun i => g.nodes[i]?

def topChildren (g : Graph) : List Node := g.nodesAt g.children

def childrenOf (g : Graph) (n : Node) : List Node := g.nodesAt n.children

end Graph

end ProviderBindings
