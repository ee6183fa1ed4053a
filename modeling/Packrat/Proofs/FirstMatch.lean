import Packrat.Proofs.Itineraries
import Packrat.Proofs.MatchTransparency
import Packrat.Traversal.Search

/-! # The first match

A search shows the paths of a traversal to a visitor that matches each of them and stops at the
first match.  All share one table of remembered answers, in which there are also those that were
asked for while a child or a parent of the path was looked at.  Since the table holds nothing but
what matchers mean (`MatchSession.Valid`), the visitor finds the meaning of the matcher at each stop
(`seek_holds`), and so the first path of the enumeration at which it holds.

That what is found is the path of a stop does not depend on any of this, and holds of every matcher
(`mem_stops_of_found`).
-/
namespace Packrat

namespace TraversalOrder

variable {M : Matcher → Prop}

theorem exec_liftExcept (found : Except Violation (Option Path)) (s : MatchSession) :
    (findFirst.liftExcept found).exec s = (found, s) := by
  cases found <;> rfl

/-- A search finds what its visitor finds, with no answers remembered at first. -/
theorem exec_findFirst (order : TraversalOrder) (m : Matcher) (p : Path) (s : MatchSession) :
    ((order.findFirst m p).exec s).1 =
      (order.traverse (seek m) p ⟨{ s with answers := {} }, .ok none⟩).found := by
  rw [findFirst, Matching.exec_bind, Matching.exec_inFreshMemo, Matching.exec_bind,
    Matching.exec_modifyGet]
  dsimp only
  rw [exec_liftExcept]
  cases (order.traverse (seek m) p ⟨{ s with answers := {} }, .ok none⟩).found <;> rfl

/-- What the visitor has found after a stop, it had found before, or it is the path of the stop. -/
theorem seek_found (m : Matcher) (stop : Stop) (state : Search) {q : Path}
    (h : (seek m state stop).1.found = .ok (some q)) :
    state.found = .ok (some q) ∨ q = stop.path := by
  rw [seek] at h
  split at h
  · exact .inr (Option.some.inj (Except.ok.inj h)).symm
  · exact .inl h
  · cases h

/-- What is found is the path of a stop, whatever the matcher. -/
theorem mem_stops_of_found {order : TraversalOrder} {m : Matcher} {p q : Path}
    {s s' : MatchSession} (h : (order.findFirst m p).exec s = (.ok (some q), s')) :
    ∃ stop ∈ order.stops p, q = stop.path := by
  have hfound : ((order.findFirst m p).exec s).1 = .ok (some q) := by rw [h]
  rw [exec_findFirst, traverse_eq_tour] at hfound
  -- What the search has found so far, it has found at a stop.
  let FoundAtStop (state : Search) : Prop :=
    state.found = .ok (some q) → ∃ stop ∈ order.stops p, q = stop.path
  have hstart : FoundAtStop ⟨{ s with answers := {} }, .ok none⟩ := fun hnone => by cases hnone
  refine tour_induction (P := FoundAtStop) (fun stop hstop state hstate hvisit => ?_) hstart hfound
  obtain hbefore | rfl := seek_found m stop state hvisit
  · exact hstate hbefore
  · exact ⟨stop, hstop, rfl⟩

/-- At a stop the visitor finds whether the matcher holds there: if it does, the path is what was
searched for. -/
theorem seek_holds (h : Matcher.Family M) {m : Matcher} (hm : M m) {state : Search}
    (hv : state.session.Valid M) (stop : Stop) :
    ∃ s', s'.Valid M ∧ seek m state stop =
      if m.holds stop.path then (⟨s', .ok (some stop.path)⟩, false)
      else (⟨s', state.found⟩, true) := by
  have hlog : (state.session.logStop stop).Valid M := hv
  obtain ⟨s', hexec, hv'⟩ := Matcher.check_finds h hm stop.path _ hlog
  refine ⟨s', hv', ?_⟩
  rw [seek, hexec]
  cases m.holds stop.path <;> rfl

/-- Along any stops, the visitor finds the first one at which the matcher holds. -/
theorem tour_seek (h : Matcher.Family M) {m : Matcher} (hm : M m) :
    ∀ (stops : List Stop) {s : MatchSession}, s.Valid M →
      (tour (seek m) stops ⟨s, .ok none⟩).1.found =
        .ok ((stops.map Stop.path).find? m.holds) := by
  intro stops
  induction stops with
  | nil => intro s _; rfl
  | cons stop stops ih =>
    intro s hv
    have hstate : (Search.mk s (.ok none)).session.Valid M := hv
    obtain ⟨s', hv', hseek⟩ := seek_holds h hm hstate stop
    rw [List.map_cons, List.find?_cons]
    cases hholds : m.holds stop.path with
    | true =>
      rw [hholds, if_pos rfl] at hseek
      rw [tour_cons_of_false hseek]
    | false =>
      rw [hholds, if_neg Bool.false_ne_true] at hseek
      rw [tour_cons_of_true hseek]
      exact ih hv'

/-- **A search finds the first match.**  In either order, from any path, with or without ancestors,
the search for a member of a family finds the first path of the enumeration at which the matcher
holds, and nothing if it holds at none of them. -/
theorem findFirst_eq_find? (h : Matcher.Family M) {m : Matcher} (hm : M m) (order : TraversalOrder)
    (p : Path) (s : MatchSession) :
    ((order.findFirst m p).exec s).1 = .ok ((order.enumerate p).find? m.holds) := by
  -- At the beginning nothing is remembered.
  have hv : ({ s with answers := {} } : MatchSession).Valid M :=
    Matcher.valid_of_reached h (.fresh rfl)
  have hfound := tour_seek h hm (order.stops p) hv
  rw [map_path_stops, ← traverse_eq_tour] at hfound
  rw [exec_findFirst, hfound]

/-- A node below a pair of equal siblings, looked for from a node that has an ancestor. -/
theorem findFirst_eq_find?_siblings :
    let b := Node.leaf "b"
    let p : Path := ⟨⟨none, some "a", none, [b, b]⟩, [⟨none, some "r", none, [b]⟩]⟩
    Matcher.Family (· ∈ Siblings.matchers) ∧ Siblings.paired ∈ Siblings.matchers ∧
      (depthFirst.enumerate p).find? Siblings.paired.holds = some (p.child b) ∧
      ((depthFirst.findFirst Siblings.paired p).exec {}).1 =
        .ok ((depthFirst.enumerate p).find? Siblings.paired.holds) := by
  intro b p
  have hm : Siblings.paired ∈ Siblings.matchers := by simp [Siblings.matchers]
  exact ⟨Siblings.family, hm, by rfl, findFirst_eq_find? Siblings.family hm depthFirst p {}⟩

end TraversalOrder
end Packrat
