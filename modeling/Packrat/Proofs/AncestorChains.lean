import Mathlib.Data.List.Chain
import Packrat.Proofs.FirstMatch

/-! # Paths are chains of ancestors

Only two ways of making a path look at whether its nodes belong together: `ofNodes` at all of them
and `child?` at the last one.  The others rely on what they are given: a root has no parent that it
could fail to be a child of, the parent of a leaf stands in the chain already, and what a traversal
visits is a path extended by nodes taken from the children of its leaf, batch by batch.

So the nodes of a path are a lineage, each a child of the one before (`Node.Lineage`), however the
path came about (`Path.Obtainable`), and `ofNodes` makes the same path of them again.  Childhood is
a matter of equality: a lineage may go through a copy of a child, and the next node is then looked
for among the children of the copy.

`ofNodes` itself is judged by the first node that is no child of the one before
(`Node.FirstStray`): it makes a path of the nodes if there is none, and reports its place if there
is one.
-/
namespace Packrat

/-! ## Lineages -/

namespace Node

/-- Each node is a child of the one before. -/
def Lineage (nodes : List Node) : Prop :=
  nodes.IsChain fun parent node => parent.hasChild node = true

/-- The node behind the one at the place given is there and is not a child of it. -/
def StrayBehind (nodes : List Node) (place : Nat) : Prop :=
  ∃ parent node, nodes[place]? = some parent ∧ nodes[place + 1]? = some node ∧
    parent.hasChild node = false

/-- The node behind the one at the place given is the first that is not a child of the one before
it. -/
def FirstStray (nodes : List Node) (place : Nat) : Prop :=
  StrayBehind nodes place ∧ ∀ earlier < place, ¬ StrayBehind nodes earlier

theorem hasChild_of_mem {parent node : Node} (h : node ∈ parent.children) :
    parent.hasChild node = true :=
  List.any_eq_true.mpr ⟨node, h, same_self node⟩

theorem lineage_cons_cons {parent node : Node} {nodes : List Node} :
    Lineage (parent :: node :: nodes) ↔ parent.hasChild node = true ∧ Lineage (node :: nodes) :=
  List.isChain_cons_cons

/-- A lineage goes on with a child of its last node. -/
theorem lineage_concat {nodes : List Node} {parent node : Node}
    (h : Lineage (nodes ++ [parent])) (hchild : parent.hasChild node = true) :
    Lineage (nodes ++ [parent] ++ [node]) := by
  refine h.append (List.isChain_singleton node) fun last hlast first hfirst => ?_
  rw [List.getLast?_concat, Option.mem_some] at hlast
  rw [List.head?_singleton, Option.mem_some] at hfirst
  subst hlast hfirst
  exact hchild

theorem strayBehind_cons_succ {parent : Node} {nodes : List Node} {place : Nat} :
    StrayBehind (parent :: nodes) (place + 1) ↔ StrayBehind nodes place := by
  simp only [StrayBehind, List.getElem?_cons_succ]

theorem strayBehind_zero {parent node : Node} {nodes : List Node} :
    StrayBehind (parent :: node :: nodes) 0 ↔ parent.hasChild node = false := by
  simp [StrayBehind]

/-- In a lineage there is no stray node. -/
theorem Lineage.not_strayBehind {nodes : List Node} (h : Lineage nodes) (place : Nat) :
    ¬ StrayBehind nodes place := by
  rintro ⟨parent, node, hparent, hnode, hstray⟩
  obtain ⟨_, rfl⟩ := List.getElem?_eq_some_iff.mp hparent
  obtain ⟨hlt, rfl⟩ := List.getElem?_eq_some_iff.mp hnode
  rw [List.isChain_iff_getElem.mp h place hlt] at hstray
  cases hstray

/-- Only one node is the first stray one. -/
theorem FirstStray.unique {nodes : List Node} {place place' : Nat} (h : FirstStray nodes place)
    (h' : FirstStray nodes place') : place = place' := by
  obtain hlt | heq | hlt := Nat.lt_trichotomy place place'
  · exact absurd h.1 (h'.2 place hlt)
  · exact heq
  · exact absurd h'.1 (h.2 place' hlt)

end Node

namespace Path

open Node (Lineage FirstStray StrayBehind)

/-! ## Paths and their nodes -/

theorem nodes_child (p : Path) (node : Node) : (p.child node).nodes = p.nodes ++ [node] := by
  simp [nodes, child]

theorem nodes_ne_nil (p : Path) : p.nodes ≠ [] :=
  List.append_ne_nil_of_right_ne_nil _ (List.cons_ne_nil _ _)

/-- A path is its nodes. -/
theorem nodes_injective {p q : Path} (h : p.nodes = q.nodes) : p = q := by
  obtain ⟨leaf, ancestors⟩ := p
  obtain ⟨leaf', ancestors'⟩ := q
  obtain ⟨hancestors, hleaf⟩ := List.append_inj' h rfl
  obtain rfl := List.reverse_injective hancestors
  obtain rfl := List.singleton_injective hleaf
  rfl

theorem nodes_of_parent? {p q : Path} (h : p.parent? = some q) : p.nodes = q.nodes ++ [p.leaf] := by
  obtain ⟨leaf, _ | ⟨parent, ancestors⟩⟩ := p
  · cases h
  · obtain rfl := Option.some.inj h
    simp [nodes]

theorem eq_child_of_child? {p q : Path} {node : Node} (h : p.child? node = .ok q) :
    p.leaf.hasChild node = true ∧ q = p.child node := by
  rw [child?] at h
  split at h
  · exact ⟨‹_›, (Except.ok.inj h).symm⟩
  · cases h

theorem lineage_child {p : Path} (h : Lineage p.nodes) {node : Node}
    (hchild : p.leaf.hasChild node = true) : Lineage (p.child node).nodes := by
  rw [nodes_child]
  exact Node.lineage_concat h hchild

/-! ## The path along a list of nodes -/

/-- Extending a path ends with all the nodes or at the first stray one. -/
theorem extend_cases (p : Path) (index : Nat) (nodes : List Node) :
    (∃ q, p.extend index nodes = .ok q ∧ q.nodes = p.nodes ++ nodes ∧ Lineage (p.leaf :: nodes)) ∨
      ∃ place, p.extend index nodes = .error (.broken (index + place)) ∧
        FirstStray (p.leaf :: nodes) place := by
  induction nodes generalizing p index with
  | nil => exact .inl ⟨p, rfl, (List.append_nil _).symm, List.isChain_singleton _⟩
  | cons node nodes ih =>
    rw [extend]
    cases hchild : p.leaf.hasChild node with
    | false =>
      exact .inr ⟨0, rfl, Node.strayBehind_zero.mpr hchild, fun _ h => absurd h (Nat.not_lt_zero _)⟩
    | true =>
      rw [if_pos rfl]
      obtain ⟨q, hq, hnodes, hlineage⟩ | ⟨place, herror, hstray, hfirst⟩ :=
        ih (p.child node) (index + 1)
      · refine .inl ⟨q, hq, ?_, Node.lineage_cons_cons.mpr ⟨hchild, hlineage⟩⟩
        rw [hnodes, nodes_child, List.append_assoc, List.singleton_append]
      · refine .inr ⟨place + 1, ?_, Node.strayBehind_cons_succ.mpr hstray, fun earlier hlt => ?_⟩
        · rw [herror, Nat.add_assoc, Nat.add_comm 1 place]
        · cases earlier with
          | zero =>
            rw [Node.strayBehind_zero, hchild]
            exact Bool.noConfusion
          | succ earlier =>
            rw [Node.strayBehind_cons_succ]
            exact hfirst earlier (Nat.lt_of_succ_lt_succ hlt)

/-- The path along a list of nodes: there is none along no nodes, and otherwise it is the whole list
or ends at the first stray node. -/
theorem ofNodes_cases (nodes : List Node) :
    (nodes = [] ∧ ofNodes nodes = .error .empty) ∨
      (∃ p, ofNodes nodes = .ok p ∧ p.nodes = nodes ∧ Lineage nodes) ∨
      ∃ place, ofNodes nodes = .error (.broken (place + 1)) ∧ FirstStray nodes place := by
  cases nodes with
  | nil => exact .inl ⟨rfl, rfl⟩
  | cons root nodes =>
    obtain hok | ⟨place, herror, hfirst⟩ := extend_cases (ofRoot root) 1 nodes
    · exact .inr (.inl hok)
    · exact .inr (.inr ⟨place, by rw [ofNodes, herror, Nat.add_comm], hfirst⟩)

theorem ofNodes_eq_ok_iff {nodes : List Node} {p : Path} :
    ofNodes nodes = .ok p ↔ p.nodes = nodes ∧ Lineage nodes := by
  constructor
  · intro h
    obtain ⟨-, herror⟩ | ⟨q, hq, hnodes, hlineage⟩ | ⟨place, herror, -⟩ := ofNodes_cases nodes
    · rw [herror] at h
      cases h
    · obtain rfl := Except.ok.inj (hq.symm.trans h)
      exact ⟨hnodes, hlineage⟩
    · rw [herror] at h
      cases h
  · rintro ⟨rfl, hlineage⟩
    obtain ⟨hnil, -⟩ | ⟨q, hq, hnodes, -⟩ | ⟨place, -, hfirst⟩ := ofNodes_cases p.nodes
    · exact absurd hnil p.nodes_ne_nil
    · rw [hq, nodes_injective hnodes]
    · exact absurd hfirst.1 (hlineage.not_strayBehind place)

theorem ofNodes_eq_error_iff {nodes : List Node} {e : PathError} :
    ofNodes nodes = .error e ↔
      (e = .empty ∧ nodes = []) ∨ ∃ place, e = .broken (place + 1) ∧ FirstStray nodes place := by
  constructor
  · intro h
    obtain ⟨hnil, herror⟩ | ⟨q, hq, -, -⟩ | ⟨place, herror, hfirst⟩ := ofNodes_cases nodes
    · exact .inl ⟨Except.error.inj (h.symm.trans herror), hnil⟩
    · rw [hq] at h
      cases h
    · exact .inr ⟨place, Except.error.inj (h.symm.trans herror), hfirst⟩
  · rintro (⟨rfl, rfl⟩ | ⟨place, rfl, hfirst⟩)
    · rfl
    · obtain ⟨rfl, -⟩ | ⟨q, -, -, hlineage⟩ | ⟨place', herror, hfirst'⟩ := ofNodes_cases nodes
      · obtain ⟨parent, node, hparent, -⟩ := hfirst.1
        cases hparent
      · exact absurd hfirst.1 (hlineage.not_strayBehind place)
      · rw [herror, hfirst.unique hfirst']

/-! ## Paths that are visited or found -/

/-- Below a path whose nodes are a lineage there are only such. -/
theorem lineage_of_mem_preOrder {p q : Path} (h : Lineage p.nodes) (hq : q ∈ p.preOrder) :
    Lineage q.nodes := by
  induction p using childInduction with
  | step p ih =>
    rw [preOrder_eq, List.mem_cons, List.mem_flatMap] at hq
    obtain rfl | ⟨c, hc, hq⟩ := hq
    · exact h
    · obtain ⟨node, hnode, rfl⟩ := exists_of_mem_childPaths hc
      exact ih _ hc (lineage_child h (Node.hasChild_of_mem hnode)) hq

theorem lineage_of_mem_stops {order : TraversalOrder} {p : Path} {stop : Stop}
    (h : Lineage p.nodes) (hstop : stop ∈ order.stops p) : Lineage stop.path.nodes := by
  have hmem : stop.path ∈ order.enumerate p := by
    rw [← order.map_path_stops]
    exact List.mem_map_of_mem hstop
  exact lineage_of_mem_preOrder h ((order.enumerate_perm_preOrder p).mem_iff.mp hmem)

/-! ## Paths that can be had -/

/-- **The paths that can be had**: those made of nodes or of a root, the paths to children and
parents, and those that a visitor of a traversal is shown or a search finds. -/
inductive Obtainable : Path → Prop
  | ofNodes {nodes : List Node} {p : Path} : ofNodes nodes = .ok p → Obtainable p
  | ofRoot (root : Node) : Obtainable (ofRoot root)
  | child {p q : Path} {node : Node} : Obtainable p → p.child? node = .ok q → Obtainable q
  | parent {p q : Path} : Obtainable p → p.parent? = some q → Obtainable q
  | visited {σ : Type} {p : Path} (order : TraversalOrder) (visit : σ → Stop → σ × Bool) (state : σ)
      {stop : Stop} : Obtainable p →
      stop ∈ (order.traverse (TraversalOrder.recording visit) p (state, [])).2 →
      Obtainable stop.path
  | found {p q : Path} (order : TraversalOrder) (m : Matcher) {s s' : MatchSession} :
      Obtainable p → (order.findFirst m p).exec s = (.ok (some q), s') → Obtainable q

theorem Obtainable.lineage {p : Path} (h : p.Obtainable) : Lineage p.nodes := by
  induction h with
  | ofNodes h =>
    obtain ⟨rfl, hlineage⟩ := ofNodes_eq_ok_iff.mp h
    exact hlineage
  | ofRoot root => exact List.isChain_singleton root
  | child _ h ih =>
    obtain ⟨hchild, rfl⟩ := eq_child_of_child? h
    exact lineage_child ih hchild
  | parent _ h ih =>
    rw [nodes_of_parent? h] at ih
    exact List.IsChain.left_of_append ih
  | visited order visit state _ h ih =>
    rw [(order.shows_stops _ _ visit state).2] at h
    exact lineage_of_mem_stops ih (TraversalOrder.tour_seen_subset visit _ state h)
  | found order m _ h ih =>
    obtain ⟨stop, hstop, rfl⟩ := TraversalOrder.mem_stops_of_found h
    exact lineage_of_mem_stops ih hstop

/-- All paths below one that can be had can be had, by a traversal that nothing stops. -/
theorem Obtainable.of_mem_preOrder {p q : Path} (h : p.Obtainable) (hq : q ∈ p.preOrder) :
    q.Obtainable := by
  let goOn (state : Unit) (_ : Stop) : Unit × Bool := (state, true)
  rw [← TraversalOrder.enumerate, ← TraversalOrder.map_path_stops, List.mem_map] at hq
  obtain ⟨stop, hstop, rfl⟩ := hq
  refine .visited .depthFirst goOn () h ?_
  rw [(TraversalOrder.depthFirst.shows_stops p _ goOn ()).2,
    TraversalOrder.tour_seen_of_forall (fun _ _ => rfl)]
  exact hstop

/-- **Every path is a chain of ancestors.**  However a path was obtained, it has nodes, each of them
is a child of the one before, and the path along them is the path again.  A step to a child is
undone by the step to the parent.  Along a list of nodes there is a path exactly if there are nodes
and they are a lineage; if there are none, the error says so, and otherwise it names the place of
the first node that is not a child of the one before.  Where there is no path, asserting anything
about it answers with that error and evaluates nothing. -/
theorem ancestor_chain :
    (∀ p : Path, p.Obtainable →
      p.nodes ≠ [] ∧ Lineage p.nodes ∧ Path.ofNodes p.nodes = .ok p) ∧
    (∀ (p q : Path) (node : Node), p.child? node = .ok q → q.parent? = some p) ∧
    ∀ nodes : List Node,
      (∀ p, Path.ofNodes nodes = .ok p ↔ p.nodes = nodes ∧ Lineage nodes) ∧
      (∀ e, Path.ofNodes nodes = .error e ↔ (e = .empty ∧ nodes = []) ∨
        ∃ place, e = .broken (place + 1) ∧ FirstStray nodes place) ∧
      ∀ e, Path.ofNodes nodes = .error e → ∀ (m : Matcher) (s : MatchSession),
        (m.assertMatches nodes).exec s = (.ok (.error (.path e)), s) := by
  refine ⟨fun p hp => ⟨p.nodes_ne_nil, hp.lineage, ofNodes_eq_ok_iff.mpr ⟨rfl, hp.lineage⟩⟩,
    fun p q node h => ?_,
    fun nodes => ⟨fun p => ofNodes_eq_ok_iff, fun e => ofNodes_eq_error_iff, fun e h m s => ?_⟩⟩
  · obtain ⟨-, rfl⟩ := eq_child_of_child? h
    rfl
  · rw [Matcher.assertMatches, h]
    rfl

/-- A path through a copy of a child, whose attachment is another allocation of the same number, and
on to a child of the copy that the traversal visits.  The original, itself a child of the root, is
not one of that child, nor is the child one of the root. -/
theorem ancestor_chain_copy :
    let c := Node.leaf "c"
    let b (allocation : Nat) : Node := ⟨none, some "b", some ⟨allocation, .int64 7⟩, [c]⟩
    let a : Node := ⟨none, some "a", none, [b 1]⟩
    let p : Path := ⟨c, [b 2, a]⟩
    (p.Obtainable ∧ Lineage p.nodes ∧ Path.ofNodes [a, b 2, c] = .ok p) ∧
      (Path.child? ⟨b 2, [a]⟩ c = .ok p ∧ p.parent? = some ⟨b 2, [a]⟩) ∧
      Path.ofNodes [a, b 2, c, b 1] = .error (.broken 3) ∧
      Path.ofNodes [a, c, b 1] = .error (.broken 1) ∧
      (((Matcher.value none).assertMatches [a, c, b 1]).exec {}).1 =
        .ok (.error (.path (.broken 1))) := by
  intro c b a p
  obtain ⟨hobtainable, hparent, hlists⟩ := ancestor_chain
  have hcopy : Path.ofNodes [a, b 2] = .ok ⟨b 2, [a]⟩ := rfl
  have hbelow : preOrder ⟨b 2, [a]⟩ = [⟨b 2, [a]⟩, p] := rfl
  have hp : p.Obtainable := (Obtainable.ofNodes hcopy).of_mem_preOrder (by simp [hbelow])
  have hstray : Path.ofNodes [a, c, b 1] = .error (.broken 1) :=
    ((hlists [a, c, b 1]).2.1 _).mpr
      (.inr ⟨0, rfl, ⟨a, c, rfl, rfl, rfl⟩, fun _ h => absurd h (Nat.not_lt_zero _)⟩)
  exact ⟨⟨hp, (hobtainable p hp).2⟩, ⟨rfl, hparent _ p c rfl⟩, rfl, hstray,
    congrArg Prod.fst ((hlists _).2.2 _ hstray (.value none) {})⟩

end Path
end Packrat
