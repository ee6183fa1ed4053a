import Packrat.Node.Basic

/-! # Showing trees

`render` writes a tree on one line with its spans, and `dump` without spans, a child per line, each
level indented by four blanks.  A value stands between quote marks as it is, without escapes.
-/
namespace Packrat
namespace Node

/-- The span of a node as it is shown. -/
def renderSpan : Option Span → String
  | some span => span.render
  | none => "(unset)"

mutual

/-- One line: the tree with spans, attachments and values. -/
def render : Node → String
  | ⟨span, value, attachment, children⟩ =>
    "N[" ++ renderSpan span
      ++ (match attachment with
        | some a => ", attach=" ++ a.render
        | none => "")
      ++ (match value with
        | some v => ", val=\"" ++ v ++ "\""
        | none => "")
      ++ (match children with
        | [] => ""
        | _ => ", child=\x7b" ++ ", ".intercalate (renderAll children) ++ "\x7d")
      ++ "]"

/-- The trees of a list, each on one line. -/
def renderAll : List Node → List String
  | [] => []
  | node :: nodes => node.render :: renderAll nodes

end

mutual

/-- The tree with `indent` before every line but the first. -/
def dumpFrom (indent : String) : Node → String
  | ⟨_, value, attachment, children⟩ =>
    let parts :=
      (attachment.map fun a => "attachment=" ++ a.render).toList
        ++ (value.map fun v => "value=\"" ++ v ++ "\"").toList
        ++ (match children with
          | [] => []
          | _ => ["children=\x7b\n" ++ ",\n".intercalate (dumpAll (indent ++ "    ") children)
              ++ "\x7d"])
    "Node[" ++ ", ".intercalate parts ++ "]"

/-- The trees of a list, each on lines of its own that start with `indent`. -/
def dumpAll (indent : String) : List Node → List String
  | [] => []
  | node :: nodes => (indent ++ node.dumpFrom indent) :: dumpAll indent nodes

end

/-- Many lines: the tree with attachments and values, a child per line. -/
def dump (node : Node) : String := node.dumpFrom ""

end Node
end Packrat
