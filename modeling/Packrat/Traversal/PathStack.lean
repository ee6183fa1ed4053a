import Packrat.Path

/-! # Paths that wait for a visit

A traversal visits a path and then, as long as the visitor wishes, the paths to all descendants of
its leaf.  The children of a visited node form a batch of siblings under one parent.  Breadth first,
a batch waits behind all others, and depth first it goes before them; the rest is the same.
-/
namespace Packrat

/-- The order of a traversal. -/
inductive TraversalOrder where
  /-- Level by level. -/
  | breadthFirst
  /-- A node before its children, and those before its next sibling. -/
  | depthFirst
  deriving DecidableEq, Repr

namespace TraversalOrder

/-- The name of an order. -/
def name : TraversalOrder → String
  | breadthFirst => "breadth_first"
  | depthFirst => "depth_first"

/-- The order with the given name. -/
def ofName? (name : String) : Option TraversalOrder :=
  if name = breadthFirst.name then some breadthFirst
  else if name = depthFirst.name then some depthFirst
  else none

/-- The complaint about a name that no order has. -/
def unknownName : String := "Matching variant not found"

end TraversalOrder

/-- Siblings that wait, under their parent. -/
structure Siblings where
  parent : Path
  nodes : List Node

/-- The paths that wait: what is left of the present siblings, and the batches after them.  Those in
`queue` come first, and those in `arrived` after them, with the last one at its head. -/
structure PathStack where
  current : Option Siblings := none
  queue : List Siblings := []
  arrived : List Siblings := []

namespace PathStack

/-- The batches in the order in which they are visited. -/
def batches (stack : PathStack) : List Siblings :=
  stack.current.toList ++ stack.queue ++ stack.arrived.reverse

/-- How a batch of siblings is shown. -/
def renderBatch (batch : Siblings) : String :=
  "[" ++ ", ".intercalate
    (batch.nodes.map fun node => batch.parent.render ++ "/" ++ Path.renderNode node) ++ "]"

/-- How the waiting paths are shown. -/
def render (stack : PathStack) : String :=
  "PathStack[" ++ ", ".intercalate (stack.batches.map renderBatch) ++ "]"

/-- Whether no sibling of the present batch is left. -/
def currentIsEmpty (stack : PathStack) : Bool :=
  match stack.current with
  | some batch => batch.nodes.isEmpty
  | none => true

/-- The children of the leaf as a batch, if there are any. -/
def batch? (parent : Path) : Option Siblings :=
  if parent.leaf.children.isEmpty then none else some ⟨parent, parent.leaf.children⟩

/-- The stack with a batch before everything that waits. -/
def pushFront (stack : PathStack) (batch : Siblings) : PathStack where
  current := some batch
  queue :=
    if stack.currentIsEmpty then stack.queue else stack.current.toList ++ stack.queue
  arrived := stack.arrived

/-- The stack with a batch behind everything that waits. -/
def pushBack (stack : PathStack) (batch : Siblings) : PathStack :=
  if stack.queue.isEmpty && stack.arrived.isEmpty && stack.currentIsEmpty then
    { stack with current := some batch }
  else
    { stack with arrived := batch :: stack.arrived }

/-- The stack with the children of the leaf of `path` at the place that `order` gives them. -/
def schedule (order : TraversalOrder) (path : Path) (stack : PathStack) : PathStack :=
  match batch? path with
  | none => stack
  | some batch =>
    match order with
    | .breadthFirst => stack.pushBack batch
    | .depthFirst => stack.pushFront batch

/-- The next path, from the present batch or else from the first one behind it with a node left. -/
def pollFrom (arrived : List Siblings) :
    Option Siblings → List Siblings → Option (Path × PathStack)
  | some ⟨parent, node :: nodes⟩, queue =>
    some (parent.child node, ⟨some ⟨parent, nodes⟩, queue, arrived⟩)
  | _, [] => none
  | _, batch :: queue => pollFrom arrived (some batch) queue

/-- The next path, and the stack without it.  What has arrived is looked at when nothing else is
left. -/
def poll (stack : PathStack) : Option (Path × PathStack) :=
  match pollFrom stack.arrived stack.current stack.queue with
  | some next => some next
  | none => pollFrom [] none stack.arrived.reverse

/-! ## How much waits

A visit takes one node away and may put the nodes right below it in its place, so that less waits
after it than before. -/

/-- The number of nodes in and below a batch. -/
def batchSize (batch : Siblings) : Nat := Node.sizeAll batch.nodes

/-- The number of nodes in and below all batches of a list. -/
def queueSize : List Siblings → Nat
  | [] => 0
  | batch :: queue => batchSize batch + queueSize queue

/-- The number of nodes in and below the present batch. -/
def currentSize : Option Siblings → Nat
  | some batch => batchSize batch
  | none => 0

/-- The number of nodes that wait, or stand below one that does. -/
def size (stack : PathStack) : Nat :=
  currentSize stack.current + queueSize stack.queue + queueSize stack.arrived

@[simp] theorem currentSize_some (batch : Siblings) : currentSize (some batch) = batchSize batch :=
  rfl

theorem queueSize_append (q r : List Siblings) :
    queueSize (q ++ r) = queueSize q + queueSize r := by
  induction q with
  | nil => simp [queueSize]
  | cons b q ih => simp [queueSize, ih, Nat.add_assoc]

theorem queueSize_reverse (q : List Siblings) : queueSize q.reverse = queueSize q := by
  induction q with
  | nil => rfl
  | cons b q ih => simp [queueSize, queueSize_append, ih, Nat.add_comm]

/-- A present batch without a next node is missing or used up. -/
theorem current_cases {current : Option Siblings}
    (h : ∀ parent node nodes, current = some ⟨parent, node :: nodes⟩ → False) :
    current = none ∨ ∃ parent, current = some ⟨parent, []⟩ := by
  match current, h with
  | none, _ => exact .inl rfl
  | some ⟨parent, []⟩, _ => exact .inr ⟨parent, rfl⟩
  | some ⟨parent, node :: nodes⟩, h => exact (h parent node nodes rfl).elim

theorem currentSize_eq_zero {current : Option Siblings}
    (h : ∀ parent node nodes, current = some ⟨parent, node :: nodes⟩ → False) :
    currentSize current = 0 := by
  obtain rfl | ⟨parent, rfl⟩ := current_cases h
  · rfl
  · simp [batchSize, Node.sizeAll]

theorem size_of_pollFrom {arrived : List Siblings} {current : Option Siblings}
    {queue : List Siblings} {path : Path} {rest : PathStack}
    (h : pollFrom arrived current queue = some (path, rest)) :
    rest.size + path.leaf.size = currentSize current + queueSize queue + queueSize arrived := by
  fun_induction pollFrom arrived current queue with
  | case1 parent node nodes queue =>
    simp only [Option.some.injEq, Prod.mk.injEq] at h
    obtain ⟨rfl, rfl⟩ := h
    simp only [size, currentSize, batchSize, Node.sizeAll, Path.child]
    omega
  | case2 => simp at h
  | case3 current batch queue hc ih =>
    rw [ih h, currentSize_eq_zero hc]
    simp [currentSize, queueSize]

theorem size_of_pollFrom_eq_none {arrived : List Siblings} {current : Option Siblings}
    {queue : List Siblings} (h : pollFrom arrived current queue = none) :
    currentSize current + queueSize queue = 0 := by
  fun_induction pollFrom arrived current queue with
  | case1 => simp at h
  | case2 current hc => simp [currentSize_eq_zero hc, queueSize]
  | case3 current batch queue hc ih =>
    have := ih h
    simp only [currentSize] at this
    simp only [currentSize_eq_zero hc, queueSize]
    omega

/-- Nothing that waits is lost when a path is taken. -/
theorem size_of_poll {stack rest : PathStack} {path : Path} (h : stack.poll = some (path, rest)) :
    rest.size + path.leaf.size = stack.size := by
  unfold poll at h
  split at h
  · rename_i next hn
    cases h
    exact size_of_pollFrom hn
  · rename_i hn
    rw [size_of_pollFrom h, queueSize_reverse, size, size_of_pollFrom_eq_none hn]
    simp [currentSize, queueSize]

theorem no_next_of_isEmpty {stack : PathStack} (h : stack.currentIsEmpty = true) (parent : Path)
    (node : Node) (nodes : List Node) : stack.current = some ⟨parent, node :: nodes⟩ → False := by
  intro hc
  simp [currentIsEmpty, hc] at h

theorem currentSize_of_isEmpty {stack : PathStack} (h : stack.currentIsEmpty = true) :
    currentSize stack.current = 0 :=
  currentSize_eq_zero (no_next_of_isEmpty h)

theorem size_pushFront (stack : PathStack) (batch : Siblings) :
    (stack.pushFront batch).size = batchSize batch + stack.size := by
  by_cases h : stack.currentIsEmpty = true
  · simp [pushFront, size, h, currentSize_of_isEmpty h, Nat.add_assoc]
  · cases hc : stack.current with
    | none => simp [currentIsEmpty, hc] at h
    | some current => simp [pushFront, size, h, hc, queueSize, Nat.add_assoc]

theorem size_pushBack (stack : PathStack) (batch : Siblings) :
    (stack.pushBack batch).size = batchSize batch + stack.size := by
  unfold pushBack
  split
  · rename_i h
    simp only [Bool.and_eq_true, List.isEmpty_iff] at h
    simp [size, currentSize_of_isEmpty h.2, h.1.1, h.1.2, queueSize]
  · simp only [size, queueSize]
    omega

/-- Scheduling adds what is below the leaf. -/
theorem size_schedule (order : TraversalOrder) (path : Path) (stack : PathStack) :
    (stack.schedule order path).size = Node.sizeAll path.leaf.children + stack.size := by
  unfold schedule batch?
  by_cases h : path.leaf.children.isEmpty = true
  · simp [List.isEmpty_iff.1 h, Node.sizeAll]
  · cases order <;> simp [h, size_pushFront, size_pushBack, batchSize]

/-- After a visit less waits than before it. -/
theorem size_schedule_of_poll {order : TraversalOrder} {stack rest : PathStack} {path : Path}
    (h : stack.poll = some (path, rest)) : (rest.schedule order path).size < stack.size := by
  rw [size_schedule, ← size_of_poll h]
  cases path.leaf
  simp only [Node.size]
  omega

end PathStack
end Packrat
