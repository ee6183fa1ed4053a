import Packrat.Factory.Basic

/-! # Nodes under construction

A grammar appends children to a builder while it consumes text, and turns the builder into a node
once it has succeeded.  A factory in the builder decides the attachment at that moment, from the
value and the children the builder then has, and overrides an attachment set before or after it.
-/
namespace Packrat

/-- A node under construction. -/
structure NodeBuilder where
  span : Option Span := none
  value : Option String := none
  attachment : Option Attachment := none
  factory : Option Factory := none
  children : Array Node := #[]

namespace NodeBuilder

/-- A builder that has nothing yet. -/
def empty : NodeBuilder := {}

/-- The builder that would build `node` again. -/
def ofNode (node : Node) : NodeBuilder where
  span := node.span
  value := node.value
  attachment := node.attachment
  children := node.children.toArray

/-- The builder with the span from `start` to `stop`. -/
def withSpan (b : NodeBuilder) (start stop : Nat) : NodeBuilder :=
  { b with span := some ⟨start, stop⟩ }

/-- The builder with the given value, or without one. -/
def withValue (b : NodeBuilder) (value : Option String) : NodeBuilder :=
  { b with value }

/-- The builder with the given attachment, or without one. -/
def withAttachment (b : NodeBuilder) (attachment : Option Attachment) : NodeBuilder :=
  { b with attachment }

/-- The builder with a factory for its attachment. -/
def withFactory (b : NodeBuilder) (factory : Factory) : NodeBuilder :=
  { b with factory := some factory }

/-- The builder with `node` as a further child. -/
def push (b : NodeBuilder) (node : Node) : NodeBuilder :=
  { b with children := b.children.push node }

/-- The builder with all of `nodes` as further children. -/
def extend (b : NodeBuilder) (nodes : List Node) : NodeBuilder :=
  { b with children := b.children.appendList nodes }

/-- The builder with its first `count` children only. -/
def truncate (b : NodeBuilder) (count : Nat) : NodeBuilder :=
  { b with children := b.children.take count }

/-- The attachment of the finished node. -/
def finalAttachment (b : NodeBuilder) : Except Violation (Option Attachment) :=
  match b.factory with
  | some factory => factory.create b.value b.children.toList
  | none => .ok b.attachment

/-- The finished node.  There is none if the factory breaks off. -/
def build (b : NodeBuilder) : Except Violation Node := do
  let attachment ← b.finalAttachment
  return ⟨b.span, b.value, attachment, b.children.toList⟩

@[simp] theorem build_of_factory_eq_none {b : NodeBuilder} (h : b.factory = none) :
    b.build = .ok ⟨b.span, b.value, b.attachment, b.children.toList⟩ := by
  simp [build, finalAttachment, h, bind, Except.bind, pure, Except.pure]

@[simp] theorem toList_children_extend (b : NodeBuilder) (nodes : List Node) :
    (b.extend nodes).children.toList = b.children.toList ++ nodes := by
  simp [extend]

@[simp] theorem extend_nil (b : NodeBuilder) : b.extend [] = b := rfl

@[simp] theorem extend_extend (b : NodeBuilder) (nodes more : List Node) :
    (b.extend nodes).extend more = b.extend (nodes ++ more) :=
  congrArg (fun children => { b with children }) (Array.ext' (by simp))

theorem push_eq_extend (b : NodeBuilder) (node : Node) : b.push node = b.extend [node] := rfl

/-- Going back to a mark takes away what was appended behind it. -/
theorem truncate_extend (b : NodeBuilder) (nodes : List Node) :
    (b.extend nodes).truncate b.children.size = b :=
  congrArg (fun children => { b with children }) (Array.ext' (by simp))

@[simp] theorem truncate_size (b : NodeBuilder) : b.truncate b.children.size = b :=
  b.truncate_extend []

end NodeBuilder
end Packrat
