import Mathlib.Data.List.Nodup
import Mathlib.Data.List.Perm.Basic
import Packrat.Traversal.Enumeration

/-! # What is enumerated

The paths of a tree in pre-order and by depth.  Pre-order is a recursion on the paths to children
(`preOrder_eq`); the paths of one depth are those of pre-order that have it, in the same order
(`level_eq_filter`), and below the number of nodes nothing is left (`levelOrder_eq`).

The same node may stand at several places of a tree, and equal nodes as well, so that paths do not
tell their places apart.  What does is the way down: at each step, which child is taken.  An
enumeration is complete and without repetition if it goes through the ways down one by one
(`EachOnce`).
-/
namespace Packrat

namespace Node

mutual

/-- The ways down to the nodes of a tree, in pre-order, by the numbers of the children taken. -/
def places : Node → List (List Nat)
  | ⟨_, _, _, children⟩ => [] :: placesAll 0 children

/-- The ways down to the nodes of trees whose roots are children of one node, numbered from
`first` on. -/
def placesAll (first : Nat) : List Node → List (List Nat)
  | [] => []
  | node :: nodes => node.places.map (first :: ·) ++ placesAll (first + 1) nodes

end

theorem mem_placesAll {place : List Nat} : ∀ {nodes : List Node} {first : Nat},
    place ∈ placesAll first nodes ↔
      ∃ i rest node, nodes[i]? = some node ∧ place = (first + i) :: rest ∧ rest ∈ node.places
  | [], first => by simp [placesAll]
  | node :: nodes, first => by
    rw [placesAll, List.mem_append, List.mem_map, mem_placesAll]
    constructor
    · rintro (⟨rest, hrest, rfl⟩ | ⟨i, rest, other, hi, rfl, hrest⟩)
      · exact ⟨0, rest, node, rfl, rfl, hrest⟩
      · exact ⟨i + 1, rest, other, hi, by rw [Nat.add_assoc, Nat.add_comm 1 i], hrest⟩
    · rintro ⟨_ | i, rest, other, hi, rfl, hrest⟩
      · obtain rfl := Option.some.inj hi
        exact .inl ⟨rest, hrest, rfl⟩
      · exact .inr ⟨i, rest, other, hi, by rw [Nat.add_assoc, Nat.add_comm 1 i], hrest⟩

mutual

/-- Each way down is listed once. -/
theorem nodup_places : (node : Node) → node.places.Nodup
  | ⟨_, _, _, children⟩ => by
    rw [places, List.nodup_cons]
    refine ⟨fun hmem => ?_, nodup_placesAll children 0⟩
    obtain ⟨_, _, _, _, heq, _⟩ := mem_placesAll.mp hmem
    cases heq

theorem nodup_placesAll : (nodes : List Node) → (first : Nat) → (placesAll first nodes).Nodup
  | [], _ => .nil
  | node :: nodes, first => by
    rw [placesAll, List.nodup_append']
    refine ⟨(nodup_places node).map List.cons_injective, nodup_placesAll nodes (first + 1), ?_⟩
    -- The ways below `node` begin with its number, the others with a greater one.
    intro place hmem hmem'
    obtain ⟨rest, -, rfl⟩ := List.mem_map.mp hmem
    obtain ⟨i, _, _, _, heq, _⟩ := mem_placesAll.mp hmem'
    have := (List.cons.inj heq).1
    omega

end

theorem size_pos (node : Node) : 0 < node.size := by
  cases node
  simp [size]

theorem size_le_sizeAll {node : Node} : ∀ {nodes : List Node}, node ∈ nodes →
    node.size ≤ sizeAll nodes
  | other :: nodes, hmem => by
    rw [sizeAll]
    obtain rfl | hmem := List.mem_cons.mp hmem
    · omega
    · have := size_le_sizeAll hmem
      omega

theorem size_lt_of_mem_children {node parent : Node} (hmem : node ∈ parent.children) :
    node.size < parent.size := by
  obtain ⟨span, value, attachment, children⟩ := parent
  have hle : node.size ≤ sizeAll children := size_le_sizeAll hmem
  rw [size]
  omega

end Node

namespace Path

/-! ## Recursion on the paths to children -/

theorem exists_of_mem_childPaths {p q : Path} (hq : q ∈ p.childPaths) :
    ∃ node ∈ p.leaf.children, q = p.child node := by
  obtain ⟨node, hnode, rfl⟩ := List.mem_map.mp hq
  exact ⟨node, hnode, rfl⟩

theorem size_lt_of_mem_childPaths {p q : Path} (hq : q ∈ p.childPaths) :
    q.leaf.size < p.leaf.size := by
  obtain ⟨node, hnode, rfl⟩ := exists_of_mem_childPaths hq
  exact Node.size_lt_of_mem_children hnode

theorem depth_of_mem_childPaths {p q : Path} (hq : q ∈ p.childPaths) : q.depth = p.depth + 1 := by
  obtain ⟨node, -, rfl⟩ := exists_of_mem_childPaths hq
  rfl

/-- What holds of a path if it holds of the paths to the children of its leaf, holds of all. -/
theorem childInduction {motive : Path → Prop}
    (step : ∀ p, (∀ q ∈ p.childPaths, motive q) → motive p) (p : Path) : motive p :=
  step p fun q _ => childInduction step q
termination_by p.leaf.size
decreasing_by exact size_lt_of_mem_childPaths (by assumption)

theorem preOrderAll_eq_flatMap (p : Path) (nodes : List Node) :
    preOrderAll (p.leaf :: p.ancestors) nodes = (nodes.map p.child).flatMap preOrder := by
  induction nodes with
  | nil => rw [preOrderAll, List.map_nil, List.flatMap_nil]
  | cons node nodes ih =>
    rw [preOrderAll, List.map_cons, List.flatMap_cons, ih]
    rfl

/-- **Pre-order**: the path itself, then, for each child of its leaf in order, the enumeration of
the path extended by that child. -/
theorem preOrder_eq (p : Path) : p.preOrder = p :: p.childPaths.flatMap preOrder := by
  rw [childPaths, ← preOrderAll_eq_flatMap]
  obtain ⟨⟨span, value, attachment, children⟩, ancestors⟩ := p
  rw [preOrder, preOrderFrom]

theorem depth_le_of_mem_preOrder (p : Path) : ∀ {q : Path}, q ∈ p.preOrder → p.depth ≤ q.depth := by
  induction p using childInduction with
  | step p ih =>
    intro q hq
    rw [preOrder_eq, List.mem_cons, List.mem_flatMap] at hq
    obtain rfl | ⟨c, hc, hq⟩ := hq
    · exact Nat.le_refl _
    · have := ih c hc hq
      have := depth_of_mem_childPaths hc
      omega

/-! ## Levels -/

/-- The paths some steps below `p` are those a step fewer below the paths to the children. -/
theorem level_succ (p : Path) : ∀ depth, p.level (depth + 1) = p.childPaths.flatMap (·.level depth)
  | 0 => by simp [level]
  | depth + 1 => by
    rw [level, level_succ p depth, List.flatMap_assoc]
    rfl

/-- The paths of one depth, in the order of `preOrder`. -/
theorem level_eq_filter (p : Path) (depth : Nat) :
    p.level depth = p.preOrder.filter (·.depth == p.depth + depth) := by
  induction depth generalizing p with
  | zero =>
    have hbelow : (p.childPaths.flatMap preOrder).filter (·.depth == p.depth + 0) = [] := by
      rw [List.filter_eq_nil_iff]
      intro q hq
      obtain ⟨c, hc, hq⟩ := List.mem_flatMap.mp hq
      have := depth_of_mem_childPaths hc
      have := depth_le_of_mem_preOrder c hq
      simp only [beq_iff_eq]
      omega
    rw [preOrder_eq, List.filter_cons_of_pos (by simp), hbelow, level]
  | succ depth ih =>
    rw [preOrder_eq, List.filter_cons_of_neg (by simp), List.filter_flatMap, level_succ]
    refine List.flatMap_congr fun c hc => ?_
    rw [ih, depth_of_mem_childPaths hc, Nat.add_assoc, Nat.add_comm 1 depth]

/-- With every step down, what is left below gets smaller. -/
theorem size_of_mem_level {p q : Path} : ∀ {depth}, q ∈ p.level depth →
    q.leaf.size + depth ≤ p.leaf.size
  | 0, hq => by
    obtain rfl := List.mem_singleton.mp hq
    exact Nat.le_refl _
  | depth + 1, hq => by
    obtain ⟨c, hc, hq⟩ := List.mem_flatMap.mp hq
    have := size_of_mem_level hc
    have := size_lt_of_mem_childPaths hq
    omega

theorem level_eq_nil {p : Path} {depth : Nat} (h : p.leaf.size ≤ depth) : p.level depth = [] := by
  rw [List.eq_nil_iff_forall_not_mem]
  intro q hq
  have := size_of_mem_level hq
  have := q.leaf.size_pos
  omega

/-- **Level order**: the paths of each depth from that of `p` on, in the order of `preOrder`,
however many depths are asked for beyond those that the tree has. -/
theorem levelOrder_eq (p : Path) (extra : Nat) :
    p.levelOrder = (List.range (p.leaf.size + extra)).flatMap
      fun depth => p.preOrder.filter (·.depth == p.depth + depth) := by
  have hlevels : (List.range (p.leaf.size + extra)).flatMap p.level = p.levelOrder := by
    have hbeyond : ((List.range extra).map (p.leaf.size + ·)).flatMap p.level = [] := by
      rw [List.flatMap_eq_nil_iff]
      intro depth hdepth
      obtain ⟨i, -, rfl⟩ := List.mem_map.mp hdepth
      exact level_eq_nil (Nat.le_add_right _ _)
    rw [List.range_add, List.flatMap_append, hbeyond, List.append_nil, levelOrder]
  rw [← hlevels]
  exact List.flatMap_congr fun depth _ => level_eq_filter p depth

/-! ## Places -/

/-- The path reached from `p` by taking the children with the numbers given, as far as there are
such children. -/
def descend? : Path → List Nat → Option Path
  | p, [] => some p
  | p, i :: place => p.childPaths[i]?.bind fun q => q.descend? place

/-- The way through the `i`-th child. -/
theorem descend?_cons {p : Path} {i : Nat} {node : Node} (hi : p.leaf.children[i]? = some node)
    (place : List Nat) : p.descend? (i :: place) = (p.child node).descend? place := by
  rw [descend?, childPaths, List.getElem?_map, hi]
  rfl

/-- The list goes through the tree at the leaf of `p` place by place: each way down is taken once,
and no other. -/
def EachOnce (p : Path) (paths : List Path) : Prop :=
  ∃ places : List (List Nat), places.Nodup ∧
    (∀ place, place ∈ places ↔ (p.descend? place).isSome) ∧
    places.map p.descend? = paths.map some

/-- The ways down are those listed. -/
theorem isSome_descend?_iff (place : List Nat) : ∀ p : Path,
    (p.descend? place).isSome ↔ place ∈ p.leaf.places := by
  induction place with
  | nil =>
    rintro ⟨⟨span, value, attachment, children⟩, ancestors⟩
    simp [descend?, Node.places]
  | cons i place ih =>
    intro p
    have hplaces : i :: place ∈ p.leaf.places ↔ i :: place ∈ Node.placesAll 0 p.leaf.children := by
      obtain ⟨⟨span, value, attachment, children⟩, ancestors⟩ := p
      simp [Node.places]
    rw [hplaces, Node.mem_placesAll]
    cases hi : p.leaf.children[i]? with
    | none => simp [descend?, childPaths, hi]
    | some node =>
      rw [descend?_cons hi, ih]
      constructor
      · intro hplace
        exact ⟨i, place, node, hi, by rw [Nat.zero_add], hplace⟩
      · rintro ⟨j, rest, other, hj, heq, hrest⟩
        obtain ⟨rfl, rfl⟩ := List.cons.inj heq
        rw [Nat.zero_add, hj] at hi
        obtain rfl := Option.some.inj hi
        exact hrest

mutual

/-- The ways down, in the order listed, lead to the paths of pre-order. -/
theorem map_descend?_places : (node : Node) → (ancestors : List Node) →
    node.places.map (descend? ⟨node, ancestors⟩) = (preOrderFrom ancestors node).map some
  | ⟨span, value, attachment, children⟩, ancestors => by
    rw [Node.places, preOrderFrom, List.map_cons, List.map_cons]
    exact congrArg _ (map_descend?_placesAll children
      ⟨⟨span, value, attachment, children⟩, ancestors⟩ [] rfl)

/-- The children from some number on are a rest of all children of the leaf. -/
theorem map_descend?_placesAll : (nodes : List Node) → (p : Path) → (before : List Node) →
    p.leaf.children = before ++ nodes →
    (Node.placesAll before.length nodes).map p.descend? =
      (preOrderAll (p.leaf :: p.ancestors) nodes).map some
  | [], _, _, _ => rfl
  | node :: nodes, p, before, hchildren => by
    have hnode : p.leaf.children[before.length]? = some node := by
      rw [hchildren, List.getElem?_append_right (Nat.le_refl _), Nat.sub_self]
      rfl
    have hfirst : (node.places.map (before.length :: ·)).map p.descend? =
        (preOrderFrom (p.leaf :: p.ancestors) node).map some := by
      rw [List.map_map, ← map_descend?_places node]
      exact List.map_congr_left fun place _ => descend?_cons hnode place
    have hrest := map_descend?_placesAll nodes p (before ++ [node]) (by simp [hchildren])
    rw [List.length_append, List.length_singleton] at hrest
    rw [Node.placesAll, preOrderAll, List.map_append, List.map_append, hfirst, hrest]

end

/-- **Pre-order goes through the tree place by place.** -/
theorem eachOnce_preOrder (p : Path) : p.EachOnce p.preOrder :=
  ⟨p.leaf.places, p.leaf.nodup_places, fun place => (isSome_descend?_iff place p).symm,
    map_descend?_places p.leaf p.ancestors⟩

/-- Whether each place is visited once does not depend on the order. -/
theorem EachOnce.perm {p : Path} {paths paths' : List Path} (h : p.EachOnce paths)
    (hperm : paths'.Perm paths) : p.EachOnce paths' := by
  obtain ⟨places, hnodup, hmem, hmap⟩ := h
  -- The ways down are rearranged as the paths are.
  have hcomp : Relation.Comp (· = List.map p.descend? ·) List.Perm (paths'.map some) places := by
    rw [List.eq_map_comp_perm]
    show (paths'.map some).Perm (places.map p.descend?)
    rw [hmap]
    exact hperm.map some
  obtain ⟨places', hmap', hplaces⟩ := hcomp
  exact ⟨places', hplaces.nodup_iff.mpr hnodup, fun place => hplaces.mem_iff.trans (hmem place),
    hmap'.symm⟩

end Path
end Packrat
