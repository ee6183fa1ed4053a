import Packrat.ParseEvent

/-! # Shared nodes

A parse hands the node that a memoizing consumer has stored to everyone who asks for it again, so
that one node may stand at several places of a tree.  Two nodes with equal contents may as well have
been made one after the other.  Comparing them cannot tell which is the case, but the log of the
parse can: replaying it gives every node a number in the order in which the nodes are made, and
places of a tree hold one node exactly if they show one number.
-/
namespace Packrat

/-- The number of a node, with those of its children. -/
structure Numbered where
  number : Nat
  children : List Numbered

namespace Numbered

/-- What a replay knows: the nodes that the consumers still running have got so far, the innermost
consumer first, the nodes stored, and the next number. -/
structure Replay where
  running : List (Array Numbered) := [#[]]
  stored : Std.HashMap MemoKey Numbered := {}
  next : Nat := 0

namespace Replay

/-- A new node. -/
def make (children : List Numbered) (r : Replay) : Numbered × Replay :=
  (⟨r.next, children⟩, { r with next := r.next + 1 })

/-- A new node for each of `nodes`, with the same children. -/
def remake : List Numbered → Replay → List Numbered × Replay
  | [], r => ([], r)
  | node :: nodes, r =>
    let (first, r) := r.make node.children
    let (rest, r) := remake nodes r
    (first :: rest, r)

/-- The node stored for `key`.  One with the given children is made and stored if there is none. -/
def entry (key : MemoKey) (children : List Numbered) (r : Replay) : Numbered × Replay :=
  match r.stored[key]? with
  | some node => (node, r)
  | none =>
    let (node, r) := r.make children
    (node, { r with stored := r.stored.insert key node })

/-- The children of the children of a node. -/
def grandchildren (node : Numbered) : List Numbered := node.children.flatMap (·.children)

/-- The nodes that a consumer leaves behind, where `parts` are those of the consumers it ran. -/
def yielded (parts : List Numbered) : Yield → Replay → List Numbered × Replay
  | .nothing, r => ([], r)
  | .parts, r => (parts, r)
  | .leaf, r =>
    let (node, r) := r.make []
    ([node], r)
  | .rewritten, r =>
    let (node, r) := r.make (parts.flatMap (·.children))
    ([node], r)
  | .stored key, r =>
    let (node, r) := r.entry key parts
    ([node], r)
  | .joined key, r =>
    let (node, r) := r.entry key []
    ([node], r)
  | .lifted key, r =>
    let (node, r) := r.entry key parts
    (grandchildren node, r)
  | .reattached key, r =>
    let (node, r) := r.entry key parts
    r.remake (grandchildren node)

/-- The end of the innermost consumer. -/
def finish (yield : Yield) (r : Replay) : Replay :=
  match r.running with
  | parts :: outer :: rest =>
    let (nodes, r) := yielded parts.toList yield { r with running := [] }
    { r with running := outer.appendList nodes :: rest }
  | _ => r

/-- What the replay knows after an event. -/
def observe (r : Replay) : ParseEvent → Replay
  | .started => { r with running := #[] :: r.running }
  | .ended yield => r.finish yield
  | .raised _ => r.finish .nothing
  | _ => r

end Replay

/-- Replaying: the nodes that the outermost consumer of a log left behind. -/
def ofLog (log : Array ParseEvent) : List Numbered :=
  match (log.foldl Replay.observe {}).running with
  | [nodes] => nodes.toList
  | _ => []

end Numbered
end Packrat
