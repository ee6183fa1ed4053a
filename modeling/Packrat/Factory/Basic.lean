import Packrat.Node.Basic

/-! # Attachment factories

A factory computes the attachment of a node from the text the node stands for, if there is one, and
from its children.  Its label is what a grammar shows of it.  A computation may ask something of
what it is given, as a sum does that has to stay in its range.
-/
namespace Packrat

/-- A computation of attachments, with a label. -/
structure Factory where
  label : String
  create : Option String → List Node → Except Violation (Option Attachment)

namespace Factory

/-- The factory that gives every node the same attachment, and is labelled by it. -/
def constant (attachment : Attachment) : Factory where
  label := attachment.render
  create _ _ := .ok (some attachment)

end Factory
end Packrat
