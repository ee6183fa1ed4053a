import Packrat.Node.Basic

/-! # Joining the values of a forest

`values` lists the values of a forest, a node before its children.  `joinValues` writes them one
after the other with a joint between siblings and below a node that has a value.  A node without a
value contributes its descendants only, without a joint of its own.

The values are written behind what has been written so far, so that joining takes time in proportion
to the forest and its text.
-/
namespace Packrat
namespace Node

mutual

/-- The values of a tree, a node before its children. -/
def values : Node → List String
  | ⟨_, value, _, children⟩ => value.toList ++ valuesAll children

/-- The values of a forest, tree by tree. -/
def valuesAll : List Node → List String
  | [] => []
  | node :: nodes => node.values ++ valuesAll nodes

end

mutual

/-- The joined values of one tree, behind `written`. -/
def appendTree (joint written : String) : Node → String
  | ⟨_, some value, _, children⟩ => appendForest joint joint (written ++ value) children
  | ⟨_, none, _, children⟩ => appendForest "" joint written children

/-- The joined values of a forest, behind `written`: `lead` stands before the first tree and
`joint` before every other one. -/
def appendForest (lead joint written : String) : List Node → String
  | [] => written
  | node :: nodes => appendForest joint joint (appendTree joint (written ++ lead) node) nodes

end

/-- Joined values: the values of a forest with `joint` between siblings. -/
def joinValues (joint : String) (nodes : List Node) : String :=
  appendForest "" joint "" nodes

end Node
end Packrat
