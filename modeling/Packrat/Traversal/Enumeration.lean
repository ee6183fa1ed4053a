import Packrat.Path

/-! # Enumerations of a tree

The paths to a node and to everything below it, listed in the two orders of a traversal: `preOrder`
lists a path before the paths to its children and those before the next sibling, and `levelOrder`
lists the paths by depth.
-/
namespace Packrat
namespace Path

mutual

/-- The paths to a node with the given ancestors and to everything below it. -/
def preOrderFrom (ancestors : List Node) : Node → List Path
  | ⟨span, value, attachment, children⟩ =>
    ⟨⟨span, value, attachment, children⟩, ancestors⟩
      :: preOrderAll (⟨span, value, attachment, children⟩ :: ancestors) children

/-- The paths to siblings with the given ancestors and to everything below them. -/
def preOrderAll (ancestors : List Node) : List Node → List Path
  | [] => []
  | node :: nodes => preOrderFrom ancestors node ++ preOrderAll ancestors nodes

end

/-- The path and all paths below it, each before the paths to its children. -/
def preOrder (p : Path) : List Path := preOrderFrom p.ancestors p.leaf

/-- The paths to the children of the leaf. -/
def childPaths (p : Path) : List Path := p.leaf.children.map p.child

/-- The paths a given number of steps below `p`, from left to right. -/
def level (p : Path) : Nat → List Path
  | 0 => [p]
  | depth + 1 => (p.level depth).flatMap childPaths

/-- The path and all paths below it, by depth.  No path is as many steps below as there are
nodes. -/
def levelOrder (p : Path) : List Path := (List.range p.leaf.size).flatMap p.level

end Path
end Packrat
