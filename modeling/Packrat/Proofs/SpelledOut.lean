import Packrat.Matcher.Condition
import Packrat.Proofs.MatchTransparency
import Packrat.Proofs.Relabelling

/-! # Spelled-out matchers decide equality of trees

A tree spelled out as a matcher asks, node by node, for the attachment, the value and the children
(`Node.spelledOut`).  It means that the node it is asked for is the root of an equal tree, spans
aside (`holds_spelledOut`): equal siblings and equal parts of the matcher are told apart by nothing
but their places in the two trees, which are gone through together.

A spelled-out tree asks no test, and neither does any matcher that equals a part of it.  What other
matchers have left in the table of answers is stored under keys that none of its questions equals,
whatever their tests answered (`Matching.Keeps`), and what test-free matchers have left there is
right.  So the table may have been filled by any matches at all (`MatchSession.Used`).
-/
namespace Packrat

namespace Node

mutual

/-- The matcher that asks for everything that the tree has, spans aside. -/
def spelledOut : Node → Matcher
  | ⟨_, value, attachment, children⟩ => .node attachment value (spelledOutAll children)

/-- The matchers that ask for the trees of a list, in order. -/
def spelledOutAll : List Node → List Matcher
  | [] => []
  | node :: nodes => node.spelledOut :: spelledOutAll nodes

end

theorem spelledOutAll_eq_map (nodes : List Node) : spelledOutAll nodes = nodes.map spelledOut := by
  induction nodes with
  | nil => rfl
  | cons node nodes ih => rw [spelledOutAll, ih, List.map_cons]

/-- A node is spelled out by its attachment, its value and its children spelled out. -/
theorem spelledOut_eq (node : Node) :
    node.spelledOut =
      .node node.attachment node.value (node.children.map spelledOut) := by
  obtain ⟨span, value, attachment, children⟩ := node
  rw [spelledOut, spelledOutAll_eq_map]

end Node

/-! ## What a spelled-out tree means -/

namespace Matcher

theorem holds_node (attachment : Option Attachment) (value : Option String)
    (children : List Matcher) (p : Path) :
    (node attachment value children).holds p =
      (Attachment.sameOption p.leaf.attachment attachment && (p.leaf.value == value) &&
        holdEach children p p.leaf.children) := by
  rw [node, holds, holdAll, holdAll, holdAll, holdAll, holds, holds, holds, Bool.and_true,
    Bool.and_assoc]

end Matcher

namespace Node

theorem same_spanless (a b : Node) :
    a.spanless.same b.spanless =
      (a.value == b.value && Attachment.sameOption a.attachment b.attachment &&
        sameAll (a.children.map spanless) (b.children.map spanless)) := by
  obtain ⟨span, value, attachment, children⟩ := a
  obtain ⟨span', value', attachment', children'⟩ := b
  rw [spanless, relabel_mk, relabel_mk, same_mk, beq_self_eq_true, Bool.true_and]
  rfl

mutual

/-- A spelled-out tree means that the node is the root of an equal tree, spans aside. -/
theorem holds_spelledOut : (node : Node) → (p : Path) →
    node.spelledOut.holds p = p.leaf.spanless.same node.spanless
  | ⟨span, value, attachment, children⟩, p => by
    rw [spelledOut, Matcher.holds_node, holdEach_spelledOutAll children, same_spanless,
      Bool.and_comm (Attachment.sameOption _ _)]

theorem holdEach_spelledOutAll : (nodes : List Node) → (p : Path) → (children : List Node) →
    Matcher.holdEach (spelledOutAll nodes) p children =
      sameAll (children.map spanless) (nodes.map spanless)
  | [], _, [] => rfl
  | [], _, _ :: _ => rfl
  | _ :: _, _, [] => rfl
  | node :: nodes, p, child :: children => by
    rw [spelledOutAll, Matcher.holdEach, holds_spelledOut node, holdEach_spelledOutAll nodes]
    rfl

end

end Node

/-! ## Matchers without tests -/

namespace Matcher

/-- Matchers that ask no test. -/
inductive TestFree : Matcher → Prop
  | childCount (count : Nat) : TestFree (.childCount count)
  | eachChild {inner : Matcher} : inner.TestFree → TestFree (.eachChild inner)
  | parent {inner : Matcher} : inner.TestFree → TestFree (.parent inner)
  | attachment (expected : Option Attachment) : TestFree (.attachment expected)
  | value (expected : Option String) : TestFree (.value expected)
  | children {inner : List Matcher} : (∀ m ∈ inner, m.TestFree) → TestFree (.children inner)
  | all {parts : List Matcher} : (∀ m ∈ parts, m.TestFree) → TestFree (.all parts)
  | any {parts : List Matcher} : (∀ m ∈ parts, m.TestFree) → TestFree (.any parts)

/-- Without tests, there is nothing to require of tests. -/
theorem family_testFree : Family TestFree where
  closed := by
    intro m hm part hpart
    cases hm with
    | childCount | attachment | value => cases hpart
    | eachChild h | parent h => exact List.mem_singleton.mp hpart ▸ h
    | children h | all h | any h => exact h part hpart
  test_attachment := nofun
  test_value := nofun
  eq_attachment := nofun
  eq_value := nofun

theorem testFree_of_sameAll {as bs : List Matcher} (hab : sameAll as bs = true)
    (h : ∀ b ∈ bs, ∀ a : Matcher, a.same b = true → a.TestFree) : ∀ a ∈ as, a.TestFree := by
  induction as generalizing bs with
  | nil => exact fun a ha => absurd ha List.not_mem_nil
  | cons a as ih =>
    obtain _ | ⟨b, bs⟩ := bs
    · cases hab
    · rw [sameAll_cons, Bool.and_eq_true] at hab
      rw [List.forall_mem_cons] at h ⊢
      exact ⟨h.1 a hab.1, ih hab.2 h.2⟩

/-- What equals a matcher without tests has none either. -/
theorem TestFree.of_same {a b : Matcher} (h : b.TestFree) (hab : a.same b = true) :
    a.TestFree := by
  induction h generalizing a with
  | childCount n =>
    cases agrees_of_same hab
    exact .childCount n
  | eachChild _ ih =>
    cases agrees_of_same hab with
    | eachChild hm => exact .eachChild (ih hm)
  | parent _ ih =>
    cases agrees_of_same hab with
    | parent hm => exact .parent (ih hm)
  | attachment =>
    cases agrees_of_same hab
    exact .attachment _
  | value v =>
    cases agrees_of_same hab
    exact .value v
  | children _ ih =>
    cases agrees_of_same hab with
    | children hms => exact .children (testFree_of_sameAll hms fun b hb _ => ih b hb)
  | all _ ih =>
    cases agrees_of_same hab with
    | all hms => exact .all (testFree_of_sameAll hms fun b hb _ => ih b hb)
  | any _ ih =>
    cases agrees_of_same hab with
    | any hms => exact .any (testFree_of_sameAll hms fun b hb _ => ih b hb)

end Matcher

namespace Node

mutual

theorem testFree_spelledOut : (node : Node) → node.spelledOut.TestFree
  | ⟨span, value, attachment, children⟩ => by
    have hchildren := testFree_spelledOutAll children
    rw [spelledOut, Matcher.node]
    refine .all fun part hpart => ?_
    simp only [List.mem_cons, List.not_mem_nil, or_false] at hpart
    rcases hpart with rfl | rfl | rfl
    · exact .attachment attachment
    · exact .value value
    · exact .children hchildren

theorem testFree_spelledOutAll : (nodes : List Node) → ∀ m ∈ spelledOutAll nodes, m.TestFree
  | [] => fun _ hm => absurd hm List.not_mem_nil
  | node :: nodes => by
    rw [spelledOutAll, List.forall_mem_cons]
    exact ⟨testFree_spelledOut node, testFree_spelledOutAll nodes⟩

end

end Node

/-! ## What other matchers leave in the table -/

/-- Sessions after any matches: of any matchers at any paths, with tests that may answer differently
each time, tell equal attachments apart or ask for their own matcher. -/
inductive MatchSession.Used : MatchSession → Prop
  | fresh {s : MatchSession} : s.answers = {} → Used s
  | checked {s : MatchSession} (m : Matcher) (p : Path) : Used s → Used ((m.check p).exec s).2
  | reentered {s : MatchSession} {m : Matcher} (p : Path) (result : Bool) :
      Used s → ¬ m.TestFree → Used ((m.checkReentrant p result).exec s).2

namespace Matching

variable {M : Matcher → Prop} {α β : Type}

/-- Whatever the computation answers, it keeps what is remembered for members valid. -/
def Keeps (M : Matcher → Prop) (x : Matching α) : Prop :=
  ∀ s, MatchSession.Valid M s → MatchSession.Valid M (x.exec s).2

theorem keeps_pure (a : α) : Keeps M (pure a) := fun _ hv => hv

theorem Finds.keeps {x : Matching Bool} {answer : Bool} (h : Finds M x answer) : Keeps M x := by
  intro s hv
  obtain ⟨s', hexec, hv'⟩ := h s hv
  rw [hexec]
  exact hv'

theorem Keeps.bind {x : Matching α} {f : α → Matching β} (hx : Keeps M x)
    (hf : ∀ a, Keeps M (f a)) : Keeps M (x >>= f) := by
  intro s hv
  have hv₁ := hx s hv
  rw [exec_bind]
  rcases hexec : x.exec s with ⟨_ | a, s₁⟩
  · rw [hexec] at hv₁
    exact hv₁
  · rw [hexec] at hv₁
    exact hf a s₁ hv₁

theorem keeps_allNodes {test : Node → Matching Bool} (h : ∀ node, Keeps M (test node)) :
    ∀ nodes, Keeps M (allNodes test nodes) := by
  intro nodes
  induction nodes with
  | nil => exact keeps_pure true
  | cons node nodes ih =>
    refine (h node).bind fun passed => ?_
    cases passed with
    | true => exact ih
    | false => exact keeps_pure false

/-- An answer for a key that no member's key equals is not taken for a member's. -/
theorem keeps_record {key : MatchKey} (hkey : ∀ m, M m → key.matcher.same m = false)
    (result : Bool) : Keeps M (record key result) := by
  intro s hv m p hm previous hprevious
  rw [exec_record] at hprevious
  dsimp only at hprevious
  rw [Std.HashMap.getElem?_insert, if_neg] at hprevious
  · exact hv m p hm previous hprevious
  · intro hsame
    have hmatcher := (MatchKey.same_iff.mp hsame).2
    rw [hkey m hm] at hmatcher
    cases hmatcher

/-- What no member equals may be remembered with any answer. -/
theorem keeps_remembered_of_not {m : Matcher} (hm : ∀ m', M m' → m.same m' = false) (p : Path)
    {compute : Matching Bool} (hc : Keeps M compute) : Keeps M (remembered ⟨p, m⟩ compute) := by
  intro s hv
  rw [remembered, exec_bind, exec_get]
  dsimp only
  cases s.answers[(⟨p, m⟩ : MatchKey)]? with
  | some result => exact hv
  | none =>
    have hemit (event : MatchEvent) : Keeps M (emit event) := fun _ hv => hv
    refine ((hemit _).bind fun _ => hc.bind fun result => (hemit _).bind fun _ => ?_) s hv
    exact (keeps_record hm result).bind fun _ => keeps_pure result

end Matching

namespace Matcher

section

variable {M : Matcher → Prop} (h : Family M)
  (hsame : ∀ a b : Matcher, M b → a.same b = true → M a)

include h hsame

/-- Remembering the answer of a member stores what it means; that of another matcher is stored under
a key that no member's key equals. -/
theorem keeps_remembered {m : Matcher} {p : Path} (hc : Matching.Keeps M (m.evaluate p)) :
    Matching.Keeps M (Matching.remembered ⟨p, m⟩ (m.evaluate p)) := by
  by_cases hm : M m
  · exact (check_finds h hm p).keeps
  · refine Matching.keeps_remembered_of_not (fun m' hm' => ?_) p hc
    rw [Bool.eq_false_iff]
    exact fun heq => hm (hsame m m' hm' heq)

mutual

/-- No evaluation spoils what is remembered for members. -/
theorem evaluate_keeps : (m : Matcher) → (p : Path) → Matching.Keeps M (m.evaluate p)
  | childCount n, p => Matching.keeps_pure _
  | eachChild m, p =>
    Matching.keeps_allNodes
      (fun node => keeps_remembered h hsame (evaluate_keeps m (p.child node))) _
  | parent m, p => by
    rw [evaluate]
    cases p.parent? with
    | none => exact Matching.keeps_pure false
    | some q => exact keeps_remembered h hsame (evaluate_keeps m q)
  | attachment expected, p => Matching.keeps_pure _
  | value expected, p => Matching.keeps_pure _
  | testAttachment test, p => fun _ hv => hv
  | testValue test, p => fun _ hv => hv
  | children ms, p => by
    rw [evaluate]
    split
    · exact evaluateEach_keeps ms p _
    · exact Matching.keeps_pure false
  | all ms, p => evaluateAll_keeps ms p
  | any ms, p => evaluateAny_keeps ms p

theorem evaluateEach_keeps : (ms : List Matcher) → (p : Path) → (nodes : List Node) →
    Matching.Keeps M (evaluateEach ms p nodes)
  | [], _, _ => Matching.keeps_pure true
  | _ :: _, _, [] => Matching.keeps_pure true
  | m :: ms, p, node :: nodes => by
    rw [evaluateEach]
    refine (keeps_remembered h hsame (evaluate_keeps m (p.child node))).bind fun held => ?_
    cases held with
    | true => exact evaluateEach_keeps ms p nodes
    | false => exact Matching.keeps_pure false

theorem evaluateAll_keeps : (ms : List Matcher) → (p : Path) →
    Matching.Keeps M (evaluateAll ms p)
  | [], _ => Matching.keeps_pure true
  | m :: ms, p => by
    rw [evaluateAll]
    refine (keeps_remembered h hsame (evaluate_keeps m p)).bind fun held => ?_
    cases held with
    | true => exact evaluateAll_keeps ms p
    | false => exact Matching.keeps_pure false

theorem evaluateAny_keeps : (ms : List Matcher) → (p : Path) →
    Matching.Keeps M (evaluateAny ms p)
  | [], _ => Matching.keeps_pure false
  | m :: ms, p => by
    rw [evaluateAny]
    refine (keeps_remembered h hsame (evaluate_keeps m p)).bind fun held => ?_
    cases held with
    | true => exact Matching.keeps_pure true
    | false => exact evaluateAny_keeps ms p

end

end

/-- After any matches, what is remembered for matchers without tests is what they mean. -/
theorem valid_testFree_of_used {s : MatchSession} (hs : s.Used) : s.Valid TestFree := by
  have hsame (a b : Matcher) (hb : b.TestFree) (hab : a.same b = true) : a.TestFree :=
    hb.of_same hab
  induction hs with
  | fresh hempty => exact valid_of_reached family_testFree (.fresh hempty)
  | checked m p _ ih =>
    exact keeps_remembered family_testFree hsame
      (evaluate_keeps family_testFree hsame m p) _ ih
  | @reentered s m p result _ hm ih =>
    have hother (m' : Matcher) (hm' : m'.TestFree) : m.same m' = false :=
      Bool.eq_false_iff.mpr fun heq => hm (hsame m m' hm' heq)
    have hinner := Matching.keeps_remembered_of_not hother p (Matching.keeps_pure true)
    exact Matching.keeps_remembered_of_not hother p
      (hinner.bind fun _ => Matching.keeps_pure result) _ ih

end Matcher

/-- A spelled-out tree finds whether the tree at the leaf equals it, spans aside. -/
theorem Node.spelledOut_finds (tree : Node) (p : Path) :
    Matching.Finds Matcher.TestFree (tree.spelledOut.check p)
      (p.leaf.spanless.same tree.spanless) := by
  rw [← holds_spelledOut]
  exact Matcher.check_finds Matcher.family_testFree tree.testFree_spelledOut p

/-- Asserting a spelled-out tree of nodes that form a path succeeds exactly if the last node is the
root of an equal tree, spans aside. -/
theorem assertMatches_spelledOut {nodes : List Node} {p : Path} (hp : Path.ofNodes nodes = .ok p)
    (tree : Node) (s : MatchSession) :
    ((tree.spelledOut.assertMatches nodes).exec s).1 =
      .ok (if p.leaf.spanless.same tree.spanless then .ok ()
        else .error (tree.spelledOut.mismatch p)) := by
  have hfresh : ({ s with answers := {} } : MatchSession).Valid Matcher.TestFree :=
    Matcher.valid_testFree_of_used (.fresh rfl)
  obtain ⟨s', hexec, -⟩ := tree.spelledOut_finds p _ hfresh
  rw [Matcher.assertMatches, hp]
  dsimp only
  rw [Matching.exec_bind, Matcher.checkAlone, Matching.exec_inFreshMemo, hexec]
  cases p.leaf.spanless.same tree.spanless <;> rfl

/-- **A spelled-out tree decides equality.**  After any matches at all, a tree spelled out as a
matcher is found to match a path exactly if the tree at its leaf equals it at every depth, spans
aside: the same values, equal attachments or none in both, and as many children, equal in order. -/
theorem check_spelledOut {s : MatchSession} (hs : s.Used) (tree : Node) (p : Path) :
    ((tree.spelledOut.check p).exec s).1 = .ok (p.leaf.spanless.same tree.spanless) := by
  obtain ⟨s', hexec, -⟩ := tree.spelledOut_finds p s (Matcher.valid_testFree_of_used hs)
  rw [hexec]

/-- Two equal siblings with an attachment whose payload does not equal itself: copies elsewhere
match, and another attachment with such a payload does not.  A test that changes its mind has been
asked at the siblings before. -/
theorem check_spelledOut_copies :
    let tagged (allocation : Nat) : Node :=
      ⟨none, some "b", some ⟨allocation, .custom "float" none "NaN"⟩, []⟩
    let tree (start first second : Nat) : Node :=
      ⟨some ⟨start, start + 2⟩, none, none, [tagged first, tagged second]⟩
    let p := Path.ofRoot (tree 0 1 1)
    let fickle := Matcher.eachChild (.testValue ⟨1, "fickle", Condition.alternating⟩)
    let s := ((fickle.check p).exec {}).2
    s.Used ∧ (((tree 5 1 1).spelledOut.check p).exec s).1 = .ok true ∧
      (((tree 0 1 2).spelledOut.check p).exec s).1 = .ok false := by
  intro tagged tree p fickle s
  have hs : s.Used := .checked fickle p (.fresh rfl)
  exact ⟨hs, check_spelledOut hs (tree 5 1 1) p, check_spelledOut hs (tree 0 1 2) p⟩

end Packrat
