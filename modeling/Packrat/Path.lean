import Packrat.Failure
import Packrat.Node.Basic

/-! # Paths in a tree

A path is a node together with its ancestors, each of them the parent of the next.  The last node is
the one a matcher looks at; the others let it look up.  Parenthood is a matter of equality: a node
is a child if it equals one, so a path may go through a copy.
-/
namespace Packrat

/-- A node and its ancestors, the nearest first. -/
structure Path where
  leaf : Node
  ancestors : List Node

namespace Path

/-- The path of a node without ancestors. -/
def ofRoot (root : Node) : Path := ⟨root, []⟩

/-- The path to a child of the leaf. -/
def child (p : Path) (node : Node) : Path := ⟨node, p.leaf :: p.ancestors⟩

/-- The path to `node`, which must be a child of the leaf. -/
def child? (p : Path) (node : Node) : Except PathError Path :=
  if p.leaf.hasChild node then .ok (p.child node) else .error .notAChild

/-- The path to the parent of the leaf, unless the leaf is the root. -/
def parent? (p : Path) : Option Path :=
  match p.ancestors with
  | [] => none
  | parent :: rest => some ⟨parent, rest⟩

/-- The nodes, the root first. -/
def nodes (p : Path) : List Node := p.ancestors.reverse ++ [p.leaf]

/-- The first node. -/
def root (p : Path) : Node := p.ancestors.getLastD p.leaf

/-- The number of ancestors. -/
def depth (p : Path) : Nat := p.ancestors.length

/-- The path extended by `nodes`, the first of which has the place `index` in the whole. -/
def extend (p : Path) (index : Nat) : List Node → Except PathError Path
  | [] => .ok p
  | node :: nodes =>
    if p.leaf.hasChild node then (p.child node).extend (index + 1) nodes
    else .error (.broken index)

/-- The path along `nodes`, the root first.  Each node must be a child of the one before. -/
def ofNodes : List Node → Except PathError Path
  | [] => .error .empty
  | root :: nodes => (ofRoot root).extend 1 nodes

/-- Equality of paths: equal nodes at every place. -/
def same (p q : Path) : Bool :=
  p.leaf.same q.leaf && Node.sameAll p.ancestors q.ancestors

/-- What is hashed of a path: its nodes, the root first. -/
def hashed (p : Path) : List HashItem := p.nodes.flatMap Node.hashed

/-- The value of a node as a path shows it. -/
def renderNode (node : Node) : String := node.value.getD "null"

/-- How a path is shown: the values on the way down. -/
def render (p : Path) : String := "/".intercalate (p.nodes.map renderNode)

end Path
end Packrat
