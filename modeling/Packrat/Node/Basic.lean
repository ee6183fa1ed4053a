import Packrat.Attachment
import Packrat.Violation

/-! # Nodes of a parse tree

A node is what a successful parse leaves behind: the span of text it covers, a text value, an
attachment and its children, where the first three may be missing.  Nodes are compared in two ways:
`shallowSame` looks at the node alone and `same` at the whole tree below it.
-/
namespace Packrat

/-- The positions from `start` up to, but not including, `stop`. -/
structure Span where
  start : Nat
  stop : Nat
  deriving DecidableEq, Hashable, Repr

namespace Span

/-- Whether the span covers nothing. -/
def isEmpty (s : Span) : Bool := s.start == s.stop

/-- The number of positions covered.  The span must not end before it starts. -/
def length (s : Span) : Except Violation Nat :=
  if s.start ≤ s.stop then .ok (s.stop - s.start) else .error .invertedSpan

/-- How a span is shown. -/
def render (s : Span) : String :=
  "(" ++ toString s.start ++ ", " ++ toString s.stop ++ ")"

end Span

/-- A node of a parse tree. -/
structure Node where
  span : Option Span
  value : Option String
  attachment : Option Attachment
  children : List Node

namespace Node

/-- A node with a value and nothing else. -/
def leaf (value : String) : Node := ⟨none, some value, none, []⟩

/-- Whether two nodes agree in span, value and attachment. -/
def shallowSame (a b : Node) : Bool :=
  a.span == b.span && a.value == b.value && Attachment.sameOption a.attachment b.attachment

mutual

/-- Equality of trees, with the fact that a tree equals itself.  That fact is what allows
`compareAll` to skip two trees that are one object. -/
def compare : (a b : Node) → { r : Bool // a = b → r = true }
  | ⟨span, value, attachment, children⟩, ⟨span', value', attachment', children'⟩ =>
    ⟨span == span' && value == value' && Attachment.sameOption attachment attachment' &&
      (compareAll children children').1, by
      intro h
      injection h with h₁ h₂ h₃ h₄
      subst h₁ h₂ h₃
      simp [Attachment.sameOption_self, (compareAll children children').2 h₄]⟩

/-- Equality of lists of trees, place by place. -/
def compareAll : (as bs : List Node) → { r : Bool // as = bs → r = true }
  | [], [] => ⟨true, fun _ => rfl⟩
  | a :: as, b :: bs =>
    ⟨withPtrEq a b (fun _ => (compare a b).1) (compare a b).2 && (compareAll as bs).1, by
      intro h
      injection h with h₁ h₂
      show ((compare a b).1 && (compareAll as bs).1) = true
      simp [(compare a b).2 h₁, (compareAll as bs).2 h₂]⟩
  | [], _ :: _ => ⟨false, nofun⟩
  | _ :: _, [] => ⟨false, nofun⟩

end

/-- Equality of trees: whether two nodes agree, and their children do, in order.  Parts that the two
trees share are not looked into. -/
def same (a b : Node) : Bool :=
  withPtrEq a b (fun _ => (compare a b).1) (compare a b).2

/-- Whether two lists of nodes agree at every place. -/
def sameAll (as bs : List Node) : Bool := (compareAll as bs).1

theorem same_self (a : Node) : a.same a = true := (compare a a).2 rfl

theorem sameAll_self (as : List Node) : sameAll as as = true := (compareAll as as).2 rfl

@[simp] theorem same_mk (span span' : Option Span) (value value' : Option String)
    (attachment attachment' : Option Attachment) (children children' : List Node) :
    same ⟨span, value, attachment, children⟩ ⟨span', value', attachment', children'⟩ =
      (span == span' && value == value' && Attachment.sameOption attachment attachment' &&
        sameAll children children') := rfl

@[simp] theorem sameAll_nil : sameAll [] [] = true := rfl

@[simp] theorem sameAll_cons (a b : Node) (as bs : List Node) :
    sameAll (a :: as) (b :: bs) = (a.same b && sameAll as bs) := rfl

@[simp] theorem sameAll_nil_cons (b : Node) (bs : List Node) : sameAll [] (b :: bs) = false := rfl

@[simp] theorem sameAll_cons_nil (a : Node) (as : List Node) : sameAll (a :: as) [] = false := rfl

/-- What is hashed of a node: neither its place nor its children. -/
def hashed (node : Node) : List HashItem :=
  hashedText node.value ++ Attachment.hashed node.attachment

/-- Whether some child of `parent` equals `node`. -/
def hasChild (parent node : Node) : Bool :=
  parent.children.any (·.same node)

mutual

/-- The number of nodes of the tree. -/
def size : Node → Nat
  | ⟨_, _, _, children⟩ => sizeAll children + 1

/-- The number of nodes of a list of trees. -/
def sizeAll : List Node → Nat
  | [] => 0
  | node :: nodes => node.size + sizeAll nodes

end

end Node
end Packrat
