import Packrat.Node.Joined

/-! # Joined values are the values with the joint between them

Joining hands a separator down the trees: below a node that has a value it is the joint, below one
that has none it is whatever was to stand before that node, and it is used before the first child
only.  A value and the next one can so be many levels apart, the last leaf of one tree and the first
of another, and yet have one joint between them.

When every leaf has a value, no tree is without one, and what a tree writes is its values with the
joint between each two (`appendTree_eq_intercalate`).  The same follows for a forest, behind
whatever was to stand before its first tree (`appendForest_eq_intercalate`), and
`joinValues_eq_intercalate` is that for a whole forest, with nothing before it.  A tree without any
value would still have a joint before it; the empty joint cannot tell, so that without a joint it
holds of all forests.
-/
namespace Packrat
namespace Node

theorem valuesAll_append (nodes more : List Node) :
    valuesAll (nodes ++ more) = valuesAll nodes ++ valuesAll more := by
  induction nodes with
  | nil => rfl
  | cons node nodes ih => rw [List.cons_append, valuesAll, valuesAll, ih, List.append_assoc]

theorem valuesAll_singleton (node : Node) : valuesAll [node] = node.values := by
  rw [valuesAll, valuesAll, List.append_nil]

theorem values_of_value_eq_none {node : Node} (h : node.value = none) :
    node.values = valuesAll node.children := by
  obtain ⟨span, value, attachment, children⟩ := node
  obtain rfl : value = none := h
  rw [values, Option.toList_none, List.nil_append]

/-! ## Joining without a joint -/

mutual

/-- Without a joint, joining writes the values one after the other. -/
theorem appendTree_values (written : String) :
    (node : Node) → appendTree "" written node = written ++ String.join node.values
  | ⟨span, some value, attachment, children⟩ => by
    rw [appendTree, appendForest_values, values, Option.toList_some, List.singleton_append,
      String.join_cons, String.append_assoc]
  | ⟨span, none, attachment, children⟩ => by
    rw [appendTree, appendForest_values, values, Option.toList_none, List.nil_append]

theorem appendForest_values (written : String) :
    (nodes : List Node) →
      appendForest "" "" written nodes = written ++ String.join (valuesAll nodes)
  | [] => by rw [appendForest, valuesAll, String.join_nil, String.append_empty]
  | node :: nodes => by
    rw [appendForest, appendForest_values, appendTree_values, valuesAll, String.join_append,
      String.append_empty, String.append_assoc]

end

theorem joinValues_empty (nodes : List Node) :
    joinValues "" nodes = String.join (valuesAll nodes) := by
  rw [joinValues, appendForest_values, String.empty_append]

/-! ## Joining with a joint -/

/-- Trees in which every node without children has a value. -/
inductive LeavesValued : Node → Prop
  | leaf (span : Option Span) (value : String) (attachment : Option Attachment) :
      LeavesValued ⟨span, some value, attachment, []⟩
  | inner (span : Option Span) (value : Option String) (attachment : Option Attachment)
      {children : List Node} : children ≠ [] → (∀ child ∈ children, child.LeavesValued) →
      LeavesValued ⟨span, value, attachment, children⟩

theorem LeavesValued.values_ne_nil {node : Node} (h : node.LeavesValued) : node.values ≠ [] := by
  induction h with
  | leaf span value attachment => exact List.cons_ne_nil _ _
  | @inner span value attachment children hne _ ih =>
    obtain ⟨first, rest, rfl⟩ := List.exists_cons_of_ne_nil hne
    have hfirst : first.values ≠ [] := ih first List.mem_cons_self
    simp [values, valuesAll, hfirst]

theorem valuesAll_ne_nil {nodes : List Node} (hne : nodes ≠ [])
    (h : ∀ node ∈ nodes, node.LeavesValued) : valuesAll nodes ≠ [] := by
  obtain ⟨first, rest, rfl⟩ := List.exists_cons_of_ne_nil hne
  exact List.append_ne_nil_of_left_ne_nil (h first List.mem_cons_self).values_ne_nil _

/-- What a forest writes when every tree of it writes its values with the joint between them: the
separator stands before all of them, and a joint between those of one tree and those of the next. -/
theorem appendForest_eq_of_forall {joint : String} {nodes : List Node} (hne : nodes ≠ [])
    (hvalued : ∀ node ∈ nodes, node.LeavesValued)
    (htrees : ∀ node ∈ nodes, ∀ written,
      appendTree joint written node = written ++ joint.intercalate node.values)
    (lead written : String) :
    appendForest lead joint written nodes =
      written ++ lead ++ joint.intercalate (valuesAll nodes) := by
  induction nodes generalizing lead written with
  | nil => exact absurd rfl hne
  | cons node nodes ih =>
    have hnode := htrees node List.mem_cons_self (written ++ lead)
    by_cases hnodes : nodes = []
    · subst hnodes
      rw [appendForest, appendForest, hnode, valuesAll_singleton]
    · have hrest := ih hnodes (fun n hn => hvalued n (List.mem_cons_of_mem _ hn))
        fun n hn => htrees n (List.mem_cons_of_mem _ hn)
      have hvalues : joint.intercalate (valuesAll (node :: nodes)) =
          joint.intercalate node.values ++ joint ++ joint.intercalate (valuesAll nodes) :=
        String.intercalate_append_of_ne_nil (hvalued node List.mem_cons_self).values_ne_nil
          (valuesAll_ne_nil hnodes fun n hn => hvalued n (List.mem_cons_of_mem _ hn))
      rw [appendForest, hrest, hnode, hvalues]
      simp only [String.append_assoc]

/-- A tree whose leaves have values writes its values with the joint between them. -/
theorem appendTree_eq_intercalate (joint : String) {node : Node} (h : node.LeavesValued)
    (written : String) :
    appendTree joint written node = written ++ joint.intercalate node.values := by
  induction h generalizing written with
  | leaf span value attachment =>
    rw [appendTree, appendForest, values, valuesAll, Option.toList_some, List.append_nil,
      String.intercalate_singleton]
  | @inner span value attachment children hne hvalued ih =>
    have hforest (lead written : String) : appendForest lead joint written children =
        written ++ lead ++ joint.intercalate (valuesAll children) :=
      appendForest_eq_of_forall hne hvalued ih lead written
    cases value with
    | none =>
      rw [appendTree, hforest, values, Option.toList_none, List.nil_append, String.append_empty]
    | some value =>
      rw [appendTree, hforest, values, Option.toList_some, List.singleton_append,
        String.intercalate_cons_of_ne_nil (valuesAll_ne_nil hne hvalued)]
      simp only [String.append_assoc]

theorem appendForest_eq_intercalate {joint : String} {nodes : List Node} (hne : nodes ≠ [])
    (h : ∀ node ∈ nodes, node.LeavesValued) (lead written : String) :
    appendForest lead joint written nodes =
      written ++ lead ++ joint.intercalate (valuesAll nodes) :=
  appendForest_eq_of_forall hne h (fun node hnode => appendTree_eq_intercalate joint (h node hnode))
    lead written

/-- **Joining puts the joint between each two values.**  In a forest whose leaves all have values,
joining writes the values of the nodes, a node before its children, with the joint between each two
that follow one another and nowhere else, however many nodes without a value stand between them.
With the empty joint it writes the values one after the other whatever the forest is. -/
theorem joinValues_eq_intercalate (joint : String) (nodes : List Node) :
    ((∀ node ∈ nodes, node.LeavesValued) →
      joinValues joint nodes = joint.intercalate (valuesAll nodes)) ∧
    joinValues "" nodes = String.join (valuesAll nodes) := by
  refine ⟨fun h => ?_, joinValues_empty nodes⟩
  by_cases hne : nodes = []
  · subst hne
    rfl
  · rw [joinValues, appendForest_eq_intercalate hne h, String.append_empty, String.empty_append]

/-- Two trees whose values meet below nodes without one: the last leaf of the first tree stands two
levels above the leaf that follows the value of the second. -/
theorem joinValues_across_levels :
    let wrapped (node : Node) : Node := ⟨none, none, none, [⟨none, none, none, [node]⟩]⟩
    let nodes : List Node :=
      [⟨none, none, none, [wrapped (leaf "a"), leaf "b"]⟩,
        ⟨none, some "c", none, [wrapped (leaf "d")]⟩]
    (∀ node ∈ nodes, node.LeavesValued) ∧ joinValues "-" nodes = "a-b-c-d" ∧
      joinValues "" nodes = "abcd" := by
  intro wrapped nodes
  have hwrapped (value : String) : (wrapped (leaf value)).LeavesValued :=
    .inner _ _ _ (List.cons_ne_nil _ _) fun _ hnode => List.mem_singleton.mp hnode ▸
      .inner _ _ _ (List.cons_ne_nil _ _) fun _ hleaf => List.mem_singleton.mp hleaf ▸
        .leaf _ _ _
  have hnodes : ∀ node ∈ nodes, node.LeavesValued := by
    intro node hnode
    simp only [nodes, List.mem_cons, List.not_mem_nil, or_false] at hnode
    rcases hnode with rfl | rfl
    · refine .inner _ _ _ (List.cons_ne_nil _ _) fun child hchild => ?_
      simp only [List.mem_cons, List.not_mem_nil, or_false] at hchild
      rcases hchild with rfl | rfl
      · exact hwrapped "a"
      · exact .leaf _ _ _
    · exact .inner _ _ _ (List.cons_ne_nil _ _) fun _ hchild =>
        List.mem_singleton.mp hchild ▸ hwrapped "d"
  exact ⟨hnodes, (joinValues_eq_intercalate "-" nodes).1 hnodes,
    (joinValues_eq_intercalate "-" nodes).2⟩

end Node
end Packrat
