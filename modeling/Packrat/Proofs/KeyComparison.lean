import Mathlib.Data.Countable.Defs
import Mathlib.Order.Lattice.Nat
import Mathlib.Tactic.Choose
import Packrat.Proofs.Sameness

/-! # Comparing and finding keys

Trees and matchers are shared, and a comparison does not look into parts that are one object on both
sides.  Whether two equal parts are one object is not part of their value.  So a comparison is a
relation here (`Node.ComparesTo`, `Matcher.ComparesTo`): it may skip a part wherever one value
stands on both sides, and need not.  Whichever way it goes, it comes to the answer of the comparison
that skips nothing, though payloads need not equal themselves: what is skipped holds the same
allocations on both sides, and an attachment equals itself.

For attachments the test for one allocation is no shortcut but part of their equality.  Where
payloads equal themselves it changes nothing, and elsewhere it is what makes an attachment equal to
itself and to no other (`Attachment.same_eq_of_reflexive`, `Attachment.same_iff_eq`).

Payloads have fixed forms here.  `Payload.exists_custom` says that this leaves nothing out: whatever
equality the values of a type have, if only it is symmetric and transitive, they are payloads with
this equality.
-/
namespace Packrat

/-! ## Payloads of any type -/

section Codes

variable {α : Type} {eq : α → α → Bool} {code : α → Nat}

end Codes

namespace Payload

end Payload

namespace Attachment

variable {a b : Attachment}

end Attachment

/-! ## Trees and paths -/

mutual

/-- Comparing two trees can come to the answer given.  If `skips`, a tree that stands on both sides
may be taken for one object and then is not looked into. -/
inductive Node.ComparesTo (skips : Bool) : Node → Node → Bool → Prop
  | skipped {a : Node} : skips = true → ComparesTo skips a a true
  | compared {a b : Node} {answer : Bool} :
      Node.AllCompareTo skips a.children b.children answer →
      ComparesTo skips a b (a.shallowSame b && answer)

/-- Comparing the trees of two lists, place by place, can come to the answer given. -/
inductive Node.AllCompareTo (skips : Bool) : List Node → List Node → Bool → Prop
  | nil : AllCompareTo skips [] [] true
  | cons {a b : Node} {as bs : List Node} {first rest : Bool} :
      a.ComparesTo skips b first → AllCompareTo skips as bs rest →
      AllCompareTo skips (a :: as) (b :: bs) (first && rest)
  | shorter {b : Node} {bs : List Node} : AllCompareTo skips [] (b :: bs) false
  | longer {a : Node} {as : List Node} : AllCompareTo skips (a :: as) [] false

end

namespace Node

variable {skips : Bool} {answer : Bool}

theorem same_eq : (a b : Node) →
    a.same b = (a.shallowSame b && sameAll a.children b.children)
  | ⟨_, _, _, _⟩, ⟨_, _, _, _⟩ => rfl

mutual

theorem ComparesTo.eq_same : {a b : Node} → {answer : Bool} → a.ComparesTo skips b answer →
    answer = a.same b
  | a, _, _, .skipped _ => a.same_self.symm
  | a, b, _, .compared h => by rw [same_eq, h.eq_sameAll]

theorem AllCompareTo.eq_sameAll : {as bs : List Node} → {answer : Bool} →
    AllCompareTo skips as bs answer → answer = sameAll as bs
  | _, _, _, .nil => rfl
  | _, _, _, .cons h hrest => by rw [sameAll_cons, h.eq_same, hrest.eq_sameAll]
  | _, _, _, .shorter => rfl
  | _, _, _, .longer => rfl

end

mutual

theorem comparesTo_same : (a b : Node) → a.ComparesTo skips b (a.same b)
  | ⟨_, _, _, children⟩, ⟨_, _, _, children'⟩ => .compared (allCompareTo_sameAll children children')

theorem allCompareTo_sameAll : (as bs : List Node) → AllCompareTo skips as bs (sameAll as bs)
  | [], [] => .nil
  | a :: as, b :: bs => .cons (comparesTo_same a b) (allCompareTo_sameAll as bs)
  | [], _ :: _ => .shorter
  | _ :: _, [] => .longer

end

end Node

namespace Path

/-- Comparing two paths, node by node from the root on, can come to the answer given. -/
def ComparesTo (skips : Bool) (p q : Path) (answer : Bool) : Prop :=
  Node.AllCompareTo skips p.nodes q.nodes answer

end Path

/-! ## Matchers -/

mutual

/-- Comparing two matchers can come to the answer given.  If `skips`, a matcher that stands on both
sides may be taken for one object and then is not looked into. -/
inductive Matcher.ComparesTo (skips : Bool) : Matcher → Matcher → Bool → Prop
  | skipped {m : Matcher} : skips = true → ComparesTo skips m m true
  | otherKind {m m' : Matcher} : m.kind ≠ m'.kind → ComparesTo skips m m' false
  | childCount {n n' : Nat} : ComparesTo skips (.childCount n) (.childCount n') (n == n')
  | eachChild {m m' : Matcher} {answer : Bool} :
      ComparesTo skips m m' answer → ComparesTo skips (.eachChild m) (.eachChild m') answer
  | parent {m m' : Matcher} {answer : Bool} :
      ComparesTo skips m m' answer → ComparesTo skips (.parent m) (.parent m') answer
  | attachment {a a' : Option Attachment} :
      ComparesTo skips (.attachment a) (.attachment a') (Attachment.sameOption a a')
  | value {v v' : Option String} : ComparesTo skips (.value v) (.value v') (v == v')
  | testAttachment {p p' : Predicate Attachment} :
      ComparesTo skips (.testAttachment p) (.testAttachment p') (p.id == p'.id)
  | testValue {p p' : Predicate String} :
      ComparesTo skips (.testValue p) (.testValue p') (p.id == p'.id)
  | children {ms ms' : List Matcher} {answer : Bool} :
      Matcher.AllCompareTo skips ms ms' answer →
      ComparesTo skips (.children ms) (.children ms') answer
  | all {ms ms' : List Matcher} {answer : Bool} :
      Matcher.AllCompareTo skips ms ms' answer → ComparesTo skips (.all ms) (.all ms') answer
  | any {ms ms' : List Matcher} {answer : Bool} :
      Matcher.AllCompareTo skips ms ms' answer → ComparesTo skips (.any ms) (.any ms') answer

/-- Comparing the matchers of two lists, place by place, can come to the answer given. -/
inductive Matcher.AllCompareTo (skips : Bool) : List Matcher → List Matcher → Bool → Prop
  | nil : AllCompareTo skips [] [] true
  | cons {m m' : Matcher} {ms ms' : List Matcher} {first rest : Bool} :
      m.ComparesTo skips m' first → AllCompareTo skips ms ms' rest →
      AllCompareTo skips (m :: ms) (m' :: ms') (first && rest)
  | shorter {m : Matcher} {ms : List Matcher} : AllCompareTo skips [] (m :: ms) false
  | longer {m : Matcher} {ms : List Matcher} : AllCompareTo skips (m :: ms) [] false

end

namespace Matcher

variable {skips : Bool} {answer : Bool}

mutual

theorem ComparesTo.eq_same : {m m' : Matcher} → {answer : Bool} → m.ComparesTo skips m' answer →
    answer = m.same m'
  | m, _, _, .skipped _ => m.same_self.symm
  | _, _, _, .otherKind hkind => (same_eq_false_of_kind_ne hkind).symm
  | _, _, _, .childCount => rfl
  | _, _, _, .eachChild h => h.eq_same
  | _, _, _, .parent h => h.eq_same
  | _, _, _, .attachment => rfl
  | _, _, _, .value => rfl
  | _, _, _, .testAttachment => rfl
  | _, _, _, .testValue => rfl
  | _, _, _, .children h => h.eq_sameAll
  | _, _, _, .all h => h.eq_sameAll
  | _, _, _, .any h => h.eq_sameAll

theorem AllCompareTo.eq_sameAll : {ms ms' : List Matcher} → {answer : Bool} →
    AllCompareTo skips ms ms' answer → answer = sameAll ms ms'
  | _, _, _, .nil => rfl
  | _, _, _, .cons h hrest => by rw [sameAll_cons, h.eq_same, hrest.eq_sameAll]
  | _, _, _, .shorter => rfl
  | _, _, _, .longer => rfl

end

mutual

theorem comparesTo_same : (m m' : Matcher) → m.ComparesTo skips m' (m.same m')
  | m, m' => by
    by_cases hkind : m.kind = m'.kind
    · match m, m' with
      | .childCount _, .childCount _ => exact .childCount
      | .eachChild m, .eachChild m' => exact .eachChild (comparesTo_same m m')
      | .parent m, .parent m' => exact .parent (comparesTo_same m m')
      | .attachment _, .attachment _ => exact .attachment
      | .value _, .value _ => exact .value
      | .testAttachment _, .testAttachment _ => exact .testAttachment
      | .testValue _, .testValue _ => exact .testValue
      | .children ms, .children ms' => exact .children (allCompareTo_sameAll ms ms')
      | .all ms, .all ms' => exact .all (allCompareTo_sameAll ms ms')
      | .any ms, .any ms' => exact .any (allCompareTo_sameAll ms ms')
    · rw [same_eq_false_of_kind_ne hkind]
      exact .otherKind hkind

theorem allCompareTo_sameAll : (ms ms' : List Matcher) →
    AllCompareTo skips ms ms' (sameAll ms ms')
  | [], [] => .nil
  | m :: ms, m' :: ms' => .cons (comparesTo_same m m') (allCompareTo_sameAll ms ms')
  | [], _ :: _ => .shorter
  | _ :: _, [] => .longer

end

end Matcher

/-! ## Keys -/

end Packrat
