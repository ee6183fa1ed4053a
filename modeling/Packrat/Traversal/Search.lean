import Packrat.Matcher.Evaluate
import Packrat.Traversal.Visit

/-! # Searching a tree

A search traverses a tree until it comes to a path at which a matcher holds.
-/
namespace Packrat
namespace TraversalOrder

/-- The state of a search: the session and what was found. -/
structure Search where
  session : MatchSession
  found : Except Violation (Option Path)

/-- A visitor that looks for the first path at which `m` holds. -/
def seek (m : Matcher) (state : Search) (stop : Stop) : Search × Bool :=
  match (m.check stop.path).exec (state.session.logStop stop) with
  | (.ok true, session) => (⟨session, .ok (some stop.path)⟩, false)
  | (.ok false, session) => (⟨session, state.found⟩, true)
  | (.error v, session) => (⟨session, .error v⟩, false)

/-- Searching: the first path, in order, at which `m` holds.  All paths share one memo, which is
empty at first and forgotten at the end. -/
def findFirst (order : TraversalOrder) (m : Matcher) (path : Path) : Matching (Option Path) := do
  let found ← Matching.inFreshMemo do
    let found ← modifyGet fun s =>
      let search := order.traverse (seek m) path ⟨s, .ok none⟩
      (search.found, search.session)
    liftExcept found
  Matching.emit (.searched order.name m found.isSome)
  pure found
where
  liftExcept : Except Violation (Option Path) → Matching (Option Path)
    | .ok found => pure found
    | .error v => throw v

end TraversalOrder
end Packrat
