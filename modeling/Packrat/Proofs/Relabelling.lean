import Packrat.Node.Joined
import Packrat.Consume

/-! # Trees and errors with other labels

`Node.relabel` gives every node of a tree another span and another attachment and leaves the rest:
the shape, the order and the values.  `ParseError.shift` moves an error with all its causes to
another place.  Neither changes what a parser makes of a tree or of an error: the joined values
(`Node.joinValues_relabel`), and whether one may recover from the error
(`ParseError.isRecoverable_shift`).
-/
namespace Packrat

/-- The span `offset` places further on. -/
def Span.shift (offset : Nat) (s : Span) : Span := ⟨s.start + offset, s.stop + offset⟩

namespace Node

mutual

/-- The tree with another span and another attachment for every node. -/
def relabel (onSpan : Option Span → Option Span)
    (onAttachment : Option Attachment → Option Attachment) : Node → Node
  | ⟨span, value, attachment, children⟩ =>
    ⟨onSpan span, value, onAttachment attachment, relabelAll onSpan onAttachment children⟩

/-- The trees of a list, relabelled. -/
def relabelAll (onSpan : Option Span → Option Span)
    (onAttachment : Option Attachment → Option Attachment) : List Node → List Node
  | [] => []
  | node :: nodes => node.relabel onSpan onAttachment :: relabelAll onSpan onAttachment nodes

end

section

variable (onSpan onSpan' : Option Span → Option Span)
  (onAttachment onAttachment' : Option Attachment → Option Attachment)

theorem relabelAll_eq_map (nodes : List Node) :
    relabelAll onSpan onAttachment nodes = nodes.map (relabel onSpan onAttachment) := by
  induction nodes with
  | nil => rfl
  | cons node nodes ih => rw [relabelAll, ih, List.map_cons]

theorem relabel_mk (span : Option Span) (value : Option String) (attachment : Option Attachment)
    (children : List Node) :
    relabel onSpan onAttachment ⟨span, value, attachment, children⟩ =
      ⟨onSpan span, value, onAttachment attachment,
        children.map (relabel onSpan onAttachment)⟩ := by
  rw [relabel, relabelAll_eq_map]

@[simp] theorem value_relabel (node : Node) :
    (node.relabel onSpan onAttachment).value = node.value := by
  obtain ⟨span, value, attachment, children⟩ := node
  rw [relabel_mk]

@[simp] theorem attachment_relabel (node : Node) :
    (node.relabel onSpan onAttachment).attachment = onAttachment node.attachment := by
  obtain ⟨span, value, attachment, children⟩ := node
  rw [relabel_mk]

@[simp] theorem children_relabel (node : Node) :
    (node.relabel onSpan onAttachment).children =
      node.children.map (relabel onSpan onAttachment) := by
  obtain ⟨span, value, attachment, children⟩ := node
  rw [relabel_mk]

mutual

theorem relabel_relabel : (node : Node) →
    (node.relabel onSpan onAttachment).relabel onSpan' onAttachment' =
      node.relabel (onSpan' ∘ onSpan) (onAttachment' ∘ onAttachment)
  | ⟨span, value, attachment, children⟩ => by
    rw [relabel, relabel, relabel, relabelAll_relabelAll children]
    rfl

theorem relabelAll_relabelAll : (nodes : List Node) →
    relabelAll onSpan' onAttachment' (relabelAll onSpan onAttachment nodes) =
      relabelAll (onSpan' ∘ onSpan) (onAttachment' ∘ onAttachment) nodes
  | [] => rfl
  | node :: nodes => by
    rw [relabelAll, relabelAll, relabelAll, relabel_relabel node, relabelAll_relabelAll nodes]

end

mutual

theorem relabel_id : (node : Node) → node.relabel id id = node
  | ⟨span, value, attachment, children⟩ => by
    rw [relabel, relabelAll_id children]
    rfl

theorem relabelAll_id : (nodes : List Node) → relabelAll id id nodes = nodes
  | [] => rfl
  | node :: nodes => by rw [relabelAll, relabel_id node, relabelAll_id nodes]

end

mutual

theorem appendTree_relabel (joint written : String) : (node : Node) →
    appendTree joint written (node.relabel onSpan onAttachment) = appendTree joint written node
  | ⟨_, some _, _, children⟩ => by
    rw [relabel, appendTree, appendTree, appendForest_relabelAll _ _ _ children]
  | ⟨_, none, _, children⟩ => by
    rw [relabel, appendTree, appendTree, appendForest_relabelAll _ _ _ children]

theorem appendForest_relabelAll (lead joint written : String) : (nodes : List Node) →
    appendForest lead joint written (relabelAll onSpan onAttachment nodes) =
      appendForest lead joint written nodes
  | [] => rfl
  | node :: nodes => by
    rw [relabelAll, appendForest, appendForest, appendTree_relabel _ _ node,
      appendForest_relabelAll _ _ _ nodes]

end

/-- Joining looks at nothing but values. -/
theorem joinValues_relabel (joint : String) (nodes : List Node) :
    joinValues joint (nodes.map (relabel onSpan onAttachment)) = joinValues joint nodes := by
  rw [joinValues, joinValues, ← relabelAll_eq_map, appendForest_relabelAll]

end

/-- The tree without attachments. -/
def bare : Node → Node := relabel id fun _ => none

/-- The tree without spans. -/
def spanless : Node → Node := relabel (fun _ => none) id

/-- The tree `offset` places further on. -/
def shift (offset : Nat) : Node → Node := relabel (Option.map (Span.shift offset)) id

end Node

namespace ParseError

/-- The error with all its causes `offset` places further on. -/
def shift (offset : Nat) : ParseError → ParseError
  | mismatch message position context => mismatch message (position + offset) context
  | noAlternative position context => noAlternative (position + offset) context
  | remainingInput remaining position context =>
    remainingInput remaining (position + offset) context
  | fatal message position context none => fatal message (position + offset) context none
  | fatal message position context (some cause) =>
    fatal message (position + offset) context (some (cause.shift offset))
  | inconsistent message position => inconsistent message (position + offset)

theorem shift_zero : (e : ParseError) → e.shift 0 = e
  | mismatch .. => rfl
  | noAlternative .. => rfl
  | remainingInput .. => rfl
  | fatal _ _ _ none => rfl
  | fatal _ _ _ (some cause) => by rw [shift, shift_zero cause, Nat.add_zero]
  | inconsistent .. => rfl

variable (offset : Nat)

@[simp] theorem isRecoverable_shift (e : ParseError) :
    (e.shift offset).isRecoverable = e.isRecoverable := by
  unfold shift
  split <;> rfl

theorem shift_withContext (frame : String) (e : ParseError) :
    (e.withContext frame).shift offset = (e.shift offset).withContext frame := by
  cases e with
  | fatal message position context cause => cases cause <;> rfl
  | _ => rfl

theorem shift_inSequence (e : ParseError) :
    e.inSequence.shift offset = (e.shift offset).inSequence := by
  rw [inSequence, inSequence, isRecoverable_shift]
  split
  · exact shift_withContext offset _ e
  · rfl

/-- The cause moves along with the fatal error that is made of it. -/
theorem shift_escalate (e : ParseError) :
    e.escalate.shift offset = (e.shift offset).escalate := by
  cases e with
  | fatal message position context cause => cases cause <;> rfl
  | _ => rfl

end ParseError

end Packrat
