import Packrat.Matcher.Session

/-! # Traversals

A visitor sees one path after the other, carries a state from stop to stop and says whether to go
on.  `traverse` runs a visitor over a path and all paths below it; `paths` collects them.
-/
namespace Packrat

/-- A stop of a traversal: the path visited, and the paths that wait behind it unless it is the
first stop. -/
structure Stop where
  path : Path
  pending : Option PathStack

namespace TraversalOrder

variable {σ : Type}

/-- Visits the paths that wait, until none is left or the visitor answers `false`.  Every visit
leaves less to wait. -/
def visitPending (order : TraversalOrder) (visit : σ → Stop → σ × Bool) (stack : PathStack)
    (state : σ) : σ :=
  match _h : stack.poll with
  | none => state
  | some (path, rest) =>
    match visit state ⟨path, some rest⟩ with
    | (state, true) => order.visitPending visit (rest.schedule order path) state
    | (state, false) => state
termination_by stack.size
decreasing_by exact PathStack.size_schedule_of_poll _h

/-- Traversing: visits `path` and all below it until the visitor answers `false`.  The visitor
carries a state from stop to stop. -/
def traverse (order : TraversalOrder) (visit : σ → Stop → σ × Bool) (path : Path) (state : σ) : σ :=
  match visit state ⟨path, none⟩ with
  | (state, true) =>
    order.visitPending visit (PathStack.schedule order path {}) state
  | (state, false) => state

end TraversalOrder

/-- The events that a stop is. -/
def Stop.events (stop : Stop) : List MatchEvent :=
  stop.pending.toList.map (MatchEvent.visited stop.path)

/-- The log with the events of a stop. -/
def MatchSession.logStop (s : MatchSession) (stop : Stop) : MatchSession :=
  { s with log := s.log ++ stop.events }

namespace TraversalOrder

/-- A visitor that collects paths, no more than `limit` if there is a limit. -/
def collect (limit : Option Nat) (state : MatchSession × Array Path) (stop : Stop) :
    (MatchSession × Array Path) × Bool :=
  let seen := state.2.push stop.path
  ((state.1.logStop stop, seen), limit.all (seen.size < ·))

/-- The paths of a traversal in order, up to `limit` of them if there is a limit.  The first path is
visited in any case. -/
def paths (order : TraversalOrder) (limit : Option Nat) (path : Path) : Matching (List Path) :=
  modifyGet fun s =>
    let (s, seen) := order.traverse (collect limit) path (s, #[])
    (seen.toList, s)

end TraversalOrder
end Packrat
