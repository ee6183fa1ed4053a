import Packrat.Factory.Basic
import Packrat.Node.Joined
import Packrat.Node.Rendered
import Packrat.Text.Numeral

/-! # Ready-made factories

The factories most grammars need: the matched text, a number read from it, and summaries of the
children.  Each takes the label under which a grammar shows it.
-/
namespace Packrat
namespace Factory

/-- The integer attached to a node, if its attachment is one of 64 bits. -/
def attachedInt? (node : Node) : Option Int :=
  match node.attachment with
  | some ⟨_, .int64 value⟩ => some value
  | _ => none

/-- The matched text. -/
def text (label : String) : Factory where
  label
  create text _ := .ok (text.map fun t => .ofPayload (.text t))

/-- The matched text with the letters `a` to `z` in upper case. -/
def upper (label : String) : Factory where
  label
  create text _ := .ok (text.map fun t => .ofPayload (.text (t.map Char.toUpper)))

/-- The number that the matched text denotes, or nothing. -/
def int (label : String) : Factory where
  label
  create text _ :=
    .ok ((text.bind fun t => Text.int64? t.toList).map fun n => .ofPayload (.int64 n))

/-- The number of children. -/
def count (label : String) : Factory where
  label
  create _ children := .ok (some (.ofPayload (.int64 children.length)))

/-- The sum of the integers attached to the children, added from the left.  No partial sum may leave
the range of 64 bits. -/
def sum (label : String) : Factory where
  label
  create _ children := do
    let total ← (children.filterMap attachedInt?).foldlM addInt64 0
    return some (.ofPayload (.int64 total))

/-- The joined values of the children. -/
def joined (label joint : String) : Factory where
  label
  create _ children := .ok (some (.ofPayload (.text (Node.joinValues joint children))))

/-- The attachment of the first child, or nothing. -/
def first (label : String) : Factory where
  label
  create _ children := .ok (children.head?.bind (·.attachment))

/-- The matched text and the children as they are shown. -/
def describe (label : String) : Factory where
  label
  create text children :=
    .ok (some (.ofPayload (.text
      (text.getD "null" ++ "|" ++ ";".intercalate (children.map Node.render)))))

/-- Nothing, whatever was matched. -/
def nothing (label : String) : Factory where
  label
  create _ _ := .ok none

end Factory
end Packrat
