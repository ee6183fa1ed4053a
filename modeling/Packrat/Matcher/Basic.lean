import Packrat.Path

/-! # Matchers

A matcher is a condition on a node in the light of its path.  Besides conditions on the node's own
parts, on its parent and on its children there are tests that the user supplies.  A test has an
identity, by which alone it is compared, and may depend on how often it was called.

`Matcher.same` compares matchers part by part, and `Matcher.hashed` is what is hashed of a matcher
that is looked up in a table.
-/
namespace Packrat

/-- A named test of a part that a node may lack. -/
structure Predicate (α : Type) where
  id : Nat
  name : String
  /-- The answer to the call with the given number, counted from zero. -/
  test : Nat → Option α → Bool

/-- A condition on the last node of a path. -/
inductive Matcher where
  /-- The node has exactly `count` children. -/
  | childCount (count : Nat)
  /-- Every child satisfies `inner`. -/
  | eachChild (inner : Matcher)
  /-- There is a parent and it satisfies `inner`. -/
  | parent (inner : Matcher)
  /-- The attachment equals `expected`; nothing equals only nothing. -/
  | attachment (expected : Option Attachment)
  /-- The value is `expected`. -/
  | value (expected : Option String)
  | testAttachment (predicate : Predicate Attachment)
  | testValue (predicate : Predicate String)
  /-- There are as many children as matchers, and each satisfies the one in its place. -/
  | children (inner : List Matcher)
  | all (parts : List Matcher)
  | any (parts : List Matcher)

namespace Matcher

/-- A node that has the attachment, the value and the children described. -/
def node (attachment : Option Attachment) (value : Option String) (children : List Matcher) :
    Matcher :=
  .all [.attachment attachment, .value value, .children children]

/-- A node without value, attachment and children. -/
def empty : Matcher :=
  .all [.value none, .attachment none, .childCount 0]

/-- A number for each kind of matcher. -/
def kind : Matcher → Nat
  | childCount _ => 0
  | eachChild _ => 1
  | parent _ => 2
  | attachment _ => 3
  | value _ => 4
  | testAttachment _ => 5
  | testValue _ => 6
  | children _ => 7
  | all _ => 8
  | any _ => 9

mutual

/-- Equality of matchers, with the fact that a matcher equals itself.  That fact is what allows to
skip two parts that are one object. -/
def compare : (a b : Matcher) → { r : Bool // a = b → r = true }
  | childCount n, childCount n' => ⟨n == n', by rintro ⟨⟩; simp⟩
  | eachChild m, eachChild m' =>
    ⟨withPtrEq m m' (fun _ => (compare m m').1) (compare m m').2, by
      rintro ⟨⟩; exact (compare m m).2 rfl⟩
  | parent m, parent m' =>
    ⟨withPtrEq m m' (fun _ => (compare m m').1) (compare m m').2, by
      rintro ⟨⟩; exact (compare m m).2 rfl⟩
  | attachment a, attachment a' =>
    ⟨Attachment.sameOption a a', by rintro ⟨⟩; exact Attachment.sameOption_self a⟩
  | value v, value v' => ⟨v == v', by rintro ⟨⟩; simp⟩
  | testAttachment p, testAttachment p' => ⟨p.id == p'.id, by rintro ⟨⟩; simp⟩
  | testValue p, testValue p' => ⟨p.id == p'.id, by rintro ⟨⟩; simp⟩
  | children ms, children ms' =>
    ⟨(compareAll ms ms').1, by rintro ⟨⟩; exact (compareAll ms ms).2 rfl⟩
  | all ms, all ms' => ⟨(compareAll ms ms').1, by rintro ⟨⟩; exact (compareAll ms ms).2 rfl⟩
  | any ms, any ms' => ⟨(compareAll ms ms').1, by rintro ⟨⟩; exact (compareAll ms ms).2 rfl⟩
  | a, b => ⟨a.kind == b.kind, by rintro rfl; simp⟩

/-- Equality of lists of matchers, place by place. -/
def compareAll : (as bs : List Matcher) → { r : Bool // as = bs → r = true }
  | [], [] => ⟨true, fun _ => rfl⟩
  | m :: ms, m' :: ms' =>
    ⟨withPtrEq m m' (fun _ => (compare m m').1) (compare m m').2 && (compareAll ms ms').1, by
      rintro ⟨⟩
      show ((compare m m).1 && (compareAll ms ms).1) = true
      simp [(compare m m).2 rfl, (compareAll ms ms).2 rfl]⟩
  | [], _ :: _ => ⟨false, nofun⟩
  | _ :: _, [] => ⟨false, nofun⟩

end

/-- Equality of matchers: the same kind with equal parts.  Parts that the two matchers share are not
looked into. -/
def same (a b : Matcher) : Bool :=
  withPtrEq a b (fun _ => (compare a b).1) (compare a b).2

/-- Whether two lists of matchers agree at every place. -/
def sameAll (as bs : List Matcher) : Bool := (compareAll as bs).1

theorem same_self (m : Matcher) : m.same m = true := (compare m m).2 rfl

theorem sameAll_self (ms : List Matcher) : sameAll ms ms = true := (compareAll ms ms).2 rfl

@[simp] theorem same_childCount (n n' : Nat) :
    (childCount n).same (childCount n') = (n == n') := rfl

@[simp] theorem same_eachChild (m m' : Matcher) :
    (eachChild m).same (eachChild m') = m.same m' := rfl

@[simp] theorem same_parent (m m' : Matcher) :
    (parent m).same (parent m') = m.same m' := rfl

@[simp] theorem same_attachment (a a' : Option Attachment) :
    (attachment a).same (attachment a') = Attachment.sameOption a a' := rfl

@[simp] theorem same_value (v v' : Option String) :
    (value v).same (value v') = (v == v') := rfl

@[simp] theorem same_testAttachment (p p' : Predicate Attachment) :
    (testAttachment p).same (testAttachment p') = (p.id == p'.id) := rfl

@[simp] theorem same_testValue (p p' : Predicate String) :
    (testValue p).same (testValue p') = (p.id == p'.id) := rfl

@[simp] theorem same_children (ms ms' : List Matcher) :
    (children ms).same (children ms') = sameAll ms ms' := rfl

@[simp] theorem same_all (ms ms' : List Matcher) :
    (all ms).same (all ms') = sameAll ms ms' := rfl

@[simp] theorem same_any (ms ms' : List Matcher) :
    (any ms).same (any ms') = sameAll ms ms' := rfl

/-- Matchers of different kinds are different. -/
theorem same_eq_false_of_kind_ne {a b : Matcher} (h : a.kind ≠ b.kind) : a.same b = false := by
  cases a <;> cases b <;> simp_all [same, withPtrEq, compare, kind]

@[simp] theorem sameAll_nil : sameAll [] [] = true := rfl

@[simp] theorem sameAll_cons (m m' : Matcher) (ms ms' : List Matcher) :
    sameAll (m :: ms) (m' :: ms') = (m.same m' && sameAll ms ms') := rfl

@[simp] theorem sameAll_nil_cons (m : Matcher) (ms : List Matcher) :
    sameAll [] (m :: ms) = false := rfl

@[simp] theorem sameAll_cons_nil (m : Matcher) (ms : List Matcher) :
    sameAll (m :: ms) [] = false := rfl

mutual

/-- What is hashed of a matcher: its kind and its parts. -/
def hashed : Matcher → List HashItem
  | m@(childCount n) => [.kind m.kind, .number n]
  | m@(eachChild inner) => .kind m.kind :: inner.hashed
  | m@(parent inner) => .kind m.kind :: inner.hashed
  | m@(attachment a) => .kind m.kind :: Attachment.hashed a
  | m@(value v) => .kind m.kind :: hashedText v
  | m@(testAttachment p) => [.kind m.kind, .address p.id]
  | m@(testValue p) => [.kind m.kind, .address p.id]
  | m@(children ms) => .kind m.kind :: .number ms.length :: hashedAll ms
  | m@(all ms) => .kind m.kind :: .number ms.length :: hashedAll ms
  | m@(any ms) => .kind m.kind :: .number ms.length :: hashedAll ms

/-- What is hashed of the matchers of a list, in order. -/
def hashedAll : List Matcher → List HashItem
  | [] => []
  | m :: ms => m.hashed ++ hashedAll ms

end

mutual

/-- How a matcher is shown. -/
def render : Matcher → String
  | childCount n => "childCount(" ++ toString n ++ ")"
  | eachChild m => "forEachChild(" ++ m.render ++ ")"
  | parent m => "forParent(" ++ m.render ++ ")"
  | attachment (some a) => "attachment(" ++ a.render ++ ")"
  | attachment none => "attachment(null)"
  | value (some v) => "value(" ++ Text.quote v ++ ")"
  | value none => "value(null)"
  | testAttachment p => "testAttachment(" ++ p.name ++ ")"
  | testValue p => "testValue(" ++ p.name ++ ")"
  | children ms => "children(" ++ ", ".intercalate (renderAll ms) ++ ")"
  | all ms => "and(" ++ ", ".intercalate (renderAll ms) ++ ")"
  | any ms => "or(" ++ ", ".intercalate (renderAll ms) ++ ")"

/-- How the matchers of a list are shown, in order. -/
def renderAll : List Matcher → List String
  | [] => []
  | m :: ms => m.render :: renderAll ms

end

end Matcher
end Packrat
