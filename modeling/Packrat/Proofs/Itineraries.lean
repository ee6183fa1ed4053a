import Packrat.Proofs.Enumerations
import Packrat.Traversal.Visit

/-! # The stops of a traversal

A traversal is a loop over batches of siblings: it takes a path off the first batch that is not used
up, shows it to the visitor and puts the batch of its children before or behind the others.  What
the batches come to is a line of paths (`PathStack.waiting`): the first one leaves it
(`waiting_of_poll`) and its children are put before or behind the rest (`waiting_schedule`).  The
line alone decides in which order paths are visited (`Visits`).

Where the children are put before the rest, all below a path is visited before the next one, which
is pre-order.  Where they are put behind it, a line of paths is used up while the line of their
children builds up behind it (`Visits.next_level`), so that one level is visited after the other.

The visitor has no say in where the traversal goes next, only in whether it goes on.  So there is
one list of stops for all visitors, and each of them sees it up to the first stop at which it
answers `false` (`Shows`).
-/
namespace Packrat

/-! ## The line of waiting paths -/

/-- The paths to the siblings of a batch. -/
def Siblings.paths (batch : Siblings) : List Path := batch.nodes.map batch.parent.child

namespace PathStack

/-- The paths that wait, in the order in which they are taken. -/
def waiting (stack : PathStack) : List Path := stack.batches.flatMap Siblings.paths

theorem waiting_mk (current : Option Siblings) (queue arrived : List Siblings) :
    waiting ⟨current, queue, arrived⟩ =
      current.toList.flatMap Siblings.paths ++ queue.flatMap Siblings.paths ++
        arrived.reverse.flatMap Siblings.paths := by
  rw [waiting, batches, List.flatMap_append, List.flatMap_append]

theorem paths_current_eq_nil {current : Option Siblings}
    (h : ∀ parent node nodes, current = some ⟨parent, node :: nodes⟩ → False) :
    current.toList.flatMap Siblings.paths = [] := by
  obtain rfl | ⟨parent, rfl⟩ := current_cases h <;> rfl

theorem waiting_of_pollFrom {arrived : List Siblings} {current : Option Siblings}
    {queue : List Siblings} {path : Path} {rest : PathStack}
    (h : pollFrom arrived current queue = some (path, rest)) :
    waiting ⟨current, queue, arrived⟩ = path :: rest.waiting := by
  fun_induction pollFrom arrived current queue with
  | case1 parent node nodes queue =>
    simp only [Option.some.injEq, Prod.mk.injEq] at h
    obtain ⟨rfl, rfl⟩ := h
    simp [waiting_mk, Siblings.paths]
  | case2 => simp at h
  | case3 current batch queue hc ih =>
    rw [← ih h, waiting_mk, waiting_mk, paths_current_eq_nil hc]
    simp

theorem waiting_of_pollFrom_eq_none {arrived : List Siblings} {current : Option Siblings}
    {queue : List Siblings} (h : pollFrom arrived current queue = none) :
    waiting ⟨current, queue, arrived⟩ = arrived.reverse.flatMap Siblings.paths := by
  fun_induction pollFrom arrived current queue with
  | case1 => simp at h
  | case2 current hc => simp [waiting_mk, paths_current_eq_nil hc]
  | case3 current batch queue hc ih =>
    rw [← ih h, waiting_mk, waiting_mk, paths_current_eq_nil hc]
    simp

/-- The path taken is the first one in line. -/
theorem waiting_of_poll {stack rest : PathStack} {path : Path}
    (h : stack.poll = some (path, rest)) : stack.waiting = path :: rest.waiting := by
  unfold poll at h
  split at h
  · rename_i next hn
    cases h
    exact waiting_of_pollFrom hn
  · rename_i hn
    rw [show stack.waiting = _ from waiting_of_pollFrom_eq_none hn, ← waiting_of_pollFrom h,
      waiting_mk]
    simp

/-- If no path can be taken, none waits. -/
theorem waiting_of_poll_eq_none {stack : PathStack} (h : stack.poll = none) :
    stack.waiting = [] := by
  unfold poll at h
  split at h
  · cases h
  · rename_i hn
    rw [show stack.waiting = _ from waiting_of_pollFrom_eq_none hn]
    simpa [waiting_mk] using waiting_of_pollFrom_eq_none h

theorem paths_of_currentIsEmpty {stack : PathStack} (h : stack.currentIsEmpty = true) :
    stack.current.toList.flatMap Siblings.paths = [] :=
  paths_current_eq_nil (no_next_of_isEmpty h)

/-- The batch that was interrupted comes next after the new one; if it is used up it is dropped. -/
theorem waiting_pushFront (stack : PathStack) (batch : Siblings) :
    (stack.pushFront batch).waiting = batch.paths ++ stack.waiting := by
  by_cases h : stack.currentIsEmpty = true
  · simp [pushFront, waiting, batches, h, paths_of_currentIsEmpty h]
  · simp [pushFront, waiting, batches, h]

/-- The new batch becomes the present one only if nothing else waits. -/
theorem waiting_pushBack (stack : PathStack) (batch : Siblings) :
    (stack.pushBack batch).waiting = stack.waiting ++ batch.paths := by
  unfold pushBack
  split
  · rename_i h
    simp only [Bool.and_eq_true, List.isEmpty_iff] at h
    simp [waiting, batches, paths_of_currentIsEmpty h.2, h.1.1, h.1.2]
  · simp [waiting, batches]

end PathStack

namespace TraversalOrder

/-- The line after a visit, given the paths to the children and those that waited before. -/
def line (order : TraversalOrder) (children waiting : List Path) : List Path :=
  match order with
  | breadthFirst => waiting ++ children
  | depthFirst => children ++ waiting

@[simp] theorem line_nil_left (order : TraversalOrder) (waiting : List Path) :
    order.line [] waiting = waiting := by
  cases order <;> simp [line]

@[simp] theorem line_nil_right (order : TraversalOrder) (children : List Path) :
    order.line children [] = children := by
  cases order <;> simp [line]

theorem line_perm (order : TraversalOrder) (children waiting : List Path) :
    (order.line children waiting).Perm (children ++ waiting) := by
  cases order with
  | breadthFirst => exact List.perm_append_comm
  | depthFirst => exact .refl _

end TraversalOrder

theorem PathStack.waiting_schedule (order : TraversalOrder) (path : Path) (stack : PathStack) :
    (stack.schedule order path).waiting = order.line path.childPaths stack.waiting := by
  unfold schedule batch?
  by_cases h : path.leaf.children.isEmpty = true
  · simp [List.isEmpty_iff.1 h, Path.childPaths]
  · cases order with
    | breadthFirst =>
      simp [h, waiting_pushBack, Siblings.paths, Path.childPaths, TraversalOrder.line]
    | depthFirst =>
      simp [h, waiting_pushFront, Siblings.paths, Path.childPaths, TraversalOrder.line]

namespace TraversalOrder

/-! ## What a line leads to -/

/-- From the line `waiting` on, `visited` are the paths visited. -/
inductive Visits (order : TraversalOrder) : List Path → List Path → Prop
  | done : Visits order [] []
  | visit {path : Path} {waiting visited : List Path} :
      Visits order (order.line path.childPaths waiting) visited →
      Visits order (path :: waiting) (path :: visited)

namespace Visits

variable {order : TraversalOrder} {waiting visited : List Path}

/-- Depth first, all below a path is visited before the next one in line. -/
theorem eq_preOrder (h : depthFirst.Visits waiting visited) :
    visited = waiting.flatMap Path.preOrder := by
  induction h with
  | done => rfl
  | @visit path waiting visited _ ih =>
    rw [ih, line, List.flatMap_append, List.flatMap_cons, Path.preOrder_eq, List.cons_append]

/-- In either order, what is visited are the paths in line and those below them. -/
theorem perm_preOrder (h : order.Visits waiting visited) :
    visited.Perm (waiting.flatMap Path.preOrder) := by
  induction h with
  | done => exact .refl _
  | @visit path waiting visited _ ih =>
    have hline := (order.line_perm path.childPaths waiting).flatMap fun q _ => .refl q.preOrder
    rw [List.flatMap_append] at hline
    rw [List.flatMap_cons, Path.preOrder_eq, List.cons_append]
    exact (ih.trans hline).cons path

/-- Breadth first, those who are in line are visited before all who join it meanwhile. -/
theorem next_level {first last : List Path} (h : breadthFirst.Visits (first ++ last) visited) :
    ∃ visited', visited = first ++ visited' ∧
      breadthFirst.Visits (last ++ first.flatMap Path.childPaths) visited' := by
  induction first generalizing last visited with
  | nil => exact ⟨visited, rfl, by simpa using h⟩
  | cons path first ih =>
    obtain _ | @⟨_, _, visited, hrest⟩ := h
    have hrest : breadthFirst.Visits (first ++ (last ++ path.childPaths)) visited :=
      List.append_assoc first last _ ▸ hrest
    obtain ⟨visited', rfl, h'⟩ := ih hrest
    rw [List.append_assoc] at h'
    exact ⟨visited', rfl, h'⟩

/-- Breadth first, a number of levels is visited, and then all from the next level on. -/
theorem levels {p : Path} (h : breadthFirst.Visits [p] visited) (n : Nat) :
    ∃ visited', visited = (List.range n).flatMap p.level ++ visited' ∧
      breadthFirst.Visits (p.level n) visited' := by
  induction n with
  | zero => exact ⟨visited, rfl, h⟩
  | succ n ih =>
    obtain ⟨visited₁, rfl, h₁⟩ := ih
    rw [← List.append_nil (p.level n)] at h₁
    obtain ⟨visited', rfl, h'⟩ := h₁.next_level
    refine ⟨visited', ?_, h'⟩
    rw [List.range_succ, List.flatMap_append, List.flatMap_singleton, List.append_assoc]

theorem eq_levelOrder {p : Path} (h : breadthFirst.Visits [p] visited) :
    visited = p.levelOrder := by
  obtain ⟨visited', rfl, h'⟩ := h.levels p.leaf.size
  rw [Path.level_eq_nil (Nat.le_refl _)] at h'
  cases h'
  rw [List.append_nil, Path.levelOrder]

end Visits

/-- The enumeration of the paths from `p` on that belongs to an order. -/
def enumerate : TraversalOrder → Path → List Path
  | breadthFirst, p => p.levelOrder
  | depthFirst, p => p.preOrder

theorem Visits.eq_enumerate {order : TraversalOrder} {p : Path} {visited : List Path}
    (h : order.Visits [p] visited) : visited = order.enumerate p := by
  cases order with
  | breadthFirst => exact h.eq_levelOrder
  | depthFirst => simpa [enumerate] using h.eq_preOrder

/-! ## Stops -/

/-- The stops at the paths that wait and at all below them. -/
def pendingStops (order : TraversalOrder) (stack : PathStack) : List Stop :=
  match _h : stack.poll with
  | none => []
  | some (path, rest) => ⟨path, some rest⟩ :: order.pendingStops (rest.schedule order path)
termination_by stack.size
decreasing_by exact PathStack.size_schedule_of_poll _h

/-- The stops of a traversal from `p` on. -/
def stops (order : TraversalOrder) (p : Path) : List Stop :=
  ⟨p, none⟩ :: order.pendingStops (PathStack.schedule order p {})

theorem visits_pendingStops (order : TraversalOrder) (stack : PathStack) :
    order.Visits stack.waiting ((order.pendingStops stack).map Stop.path) := by
  fun_induction pendingStops order stack with
  | case1 stack h =>
    rw [PathStack.waiting_of_poll_eq_none h]
    exact .done
  | case2 stack path rest h ih =>
    rw [PathStack.waiting_of_poll h, List.map_cons]
    rw [PathStack.waiting_schedule] at ih
    exact .visit ih

theorem visits_stops (order : TraversalOrder) (p : Path) :
    order.Visits [p] ((order.stops p).map Stop.path) := by
  have hbelow := order.visits_pendingStops (PathStack.schedule order p {})
  rw [PathStack.waiting_schedule] at hbelow
  rw [stops, List.map_cons]
  exact .visit hbelow

/-- The stops are at the paths of the enumeration. -/
theorem map_path_stops (order : TraversalOrder) (p : Path) :
    (order.stops p).map Stop.path = order.enumerate p :=
  (order.visits_stops p).eq_enumerate

theorem enumerate_perm_preOrder (order : TraversalOrder) (p : Path) :
    (order.enumerate p).Perm p.preOrder := by
  rw [← map_path_stops]
  simpa using (order.visits_stops p).perm_preOrder

/-! ## Visitors -/

variable {σ : Type}

/-- Shows a visitor one stop after the other, until it answers `false`: its state at the end, and
the stops it has seen. -/
def tour (visit : σ → Stop → σ × Bool) : List Stop → σ → σ × List Stop
  | [], state => (state, [])
  | stop :: stops, state =>
    match visit state stop with
    | (state, true) =>
      let (state, seen) := tour visit stops state
      (state, stop :: seen)
    | (state, false) => (state, [stop])

/-- The visitor that does as `visit` and writes down where it has been. -/
def recording (visit : σ → Stop → σ × Bool) (state : σ × List Stop) (stop : Stop) :
    (σ × List Stop) × Bool :=
  (((visit state.1 stop).1, state.2 ++ [stop]), (visit state.1 stop).2)

theorem tour_cons_of_true {visit : σ → Stop → σ × Bool} {stop : Stop} {state state' : σ}
    (h : visit state stop = (state', true)) (stops : List Stop) :
    tour visit (stop :: stops) state =
      ((tour visit stops state').1, stop :: (tour visit stops state').2) := by
  rw [tour, h]

theorem tour_cons_of_false {visit : σ → Stop → σ × Bool} {stop : Stop} {state state' : σ}
    (h : visit state stop = (state', false)) (stops : List Stop) :
    tour visit (stop :: stops) state = (state', [stop]) := by
  rw [tour, h]

/-- What is written down is what is seen. -/
theorem tour_recording (visit : σ → Stop → σ × Bool) (stops : List Stop) (state : σ)
    (seen : List Stop) :
    (tour (recording visit) stops (state, seen)).1 =
      ((tour visit stops state).1, seen ++ (tour visit stops state).2) := by
  induction stops generalizing state seen with
  | nil => simp [tour]
  | cons stop stops ih =>
    rcases hvisit : visit state stop with ⟨state', goesOn⟩
    have hrecording : recording visit (state, seen) stop = ((state', seen ++ [stop]), goesOn) := by
      rw [recording, hvisit]
    cases goesOn with
    | true =>
      rw [tour_cons_of_true hvisit, tour_cons_of_true hrecording, ih, List.append_assoc,
        List.singleton_append]
    | false => rw [tour_cons_of_false hvisit, tour_cons_of_false hrecording]

/-- What a visitor keeps at each of the stops holds of its state at the end. -/
theorem tour_induction {P : σ → Prop} {visit : σ → Stop → σ × Bool} {stops : List Stop}
    (hvisit : ∀ stop ∈ stops, ∀ state, P state → P (visit state stop).1) {state : σ}
    (h : P state) : P (tour visit stops state).1 := by
  induction stops generalizing state with
  | nil => exact h
  | cons stop stops ih =>
    have hnext := hvisit stop List.mem_cons_self state h
    rcases heq : visit state stop with ⟨state', goesOn⟩
    rw [heq] at hnext
    cases goesOn with
    | true =>
      rw [tour_cons_of_true heq]
      exact ih (fun other hother => hvisit other (List.mem_cons_of_mem _ hother)) hnext
    | false =>
      rw [tour_cons_of_false heq]
      exact hnext

/-- A visitor sees nothing but the stops. -/
theorem tour_seen_subset (visit : σ → Stop → σ × Bool) (stops : List Stop) (state : σ) :
    (tour visit stops state).2 ⊆ stops := by
  induction stops generalizing state with
  | nil => exact List.Subset.refl _
  | cons stop stops ih =>
    rcases hvisit : visit state stop with ⟨state', goesOn⟩
    cases goesOn with
    | true =>
      rw [tour_cons_of_true hvisit]
      exact List.cons_subset_cons stop (ih state')
    | false =>
      rw [tour_cons_of_false hvisit]
      exact List.cons_subset_cons stop (List.nil_subset _)

/-- A visitor that always goes on sees all stops. -/
theorem tour_seen_of_forall {visit : σ → Stop → σ × Bool}
    (hvisit : ∀ state stop, (visit state stop).2 = true) (stops : List Stop) (state : σ) :
    (tour visit stops state).2 = stops := by
  induction stops generalizing state with
  | nil => rfl
  | cons stop stops ih =>
    have hnext : visit state stop = ((visit state stop).1, true) :=
      Prod.ext rfl (hvisit state stop)
    rw [tour_cons_of_true hnext, ih]

/-- A traversal from `p` on shows every visitor these stops, up to the first one at which it answers
`false`. -/
def Shows (order : TraversalOrder) (p : Path) (stops : List Stop) : Prop :=
  ∀ (σ : Type) (visit : σ → Stop → σ × Bool) (state : σ),
    order.traverse visit p state = (tour visit stops state).1 ∧
      order.traverse (recording visit) p (state, []) = tour visit stops state

theorem visitPending_eq_tour (order : TraversalOrder) (visit : σ → Stop → σ × Bool)
    (stack : PathStack) (state : σ) :
    order.visitPending visit stack state = (tour visit (order.pendingStops stack) state).1 := by
  fun_induction visitPending order visit stack state with
  | case1 stack state h => rw [pendingStops, h, tour]
  | case2 stack state path rest h state' hvisit ih =>
    rw [pendingStops, h]
    rw [tour_cons_of_true hvisit, ih]
  | case3 stack state path rest h state' hvisit =>
    rw [pendingStops, h]
    rw [tour_cons_of_false hvisit]

theorem traverse_eq_tour (order : TraversalOrder) (visit : σ → Stop → σ × Bool) (p : Path)
    (state : σ) : order.traverse visit p state = (tour visit (order.stops p) state).1 := by
  rcases hvisit : visit state ⟨p, none⟩ with ⟨state', goesOn⟩
  cases goesOn with
  | true =>
    rw [traverse, hvisit, stops, tour_cons_of_true hvisit]
    exact visitPending_eq_tour order visit _ state'
  | false =>
    rw [traverse, hvisit, stops, tour_cons_of_false hvisit]

theorem shows_stops (order : TraversalOrder) (p : Path) : order.Shows p (order.stops p) := by
  intro σ visit state
  refine ⟨traverse_eq_tour order visit p state, ?_⟩
  rw [traverse_eq_tour, tour_recording, List.nil_append]

/-- **Depth first is pre-order.**  Whatever the visitor, it sees the paths of pre-order, up to the
first one at which it answers `false`.  They lead to each place of the tree once, also where one
node or equal nodes stand at several places. -/
theorem traverse_depthFirst (p : Path) :
    (∃ stops, depthFirst.Shows p stops ∧ stops.map Stop.path = p.preOrder) ∧
      p.EachOnce p.preOrder :=
  ⟨⟨_, depthFirst.shows_stops p, depthFirst.map_path_stops p⟩, p.eachOnce_preOrder⟩

/-- **Breadth first is level order.**  Whatever the visitor, it sees the paths depth by depth, those
of one depth in the order of pre-order, up to the first one at which it answers `false`.  They are
the paths that it would see depth first, and lead to each place of the tree once. -/
theorem traverse_breadthFirst (p : Path) :
    (∃ stops, breadthFirst.Shows p stops ∧ stops.map Stop.path = p.levelOrder) ∧
      (∀ extra, p.levelOrder = (List.range (p.leaf.size + extra)).flatMap
        fun depth => p.preOrder.filter (·.depth == p.depth + depth)) ∧
      p.levelOrder.Perm p.preOrder ∧ p.EachOnce p.levelOrder := by
  have hperm : p.levelOrder.Perm p.preOrder := breadthFirst.enumerate_perm_preOrder p
  exact ⟨⟨_, breadthFirst.shows_stops p, breadthFirst.map_path_stops p⟩, p.levelOrder_eq, hperm,
    p.eachOnce_preOrder.perm hperm⟩

end TraversalOrder
end Packrat
