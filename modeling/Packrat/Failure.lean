import Packrat.ParseError

/-! # Failures

The ways in which an operation of the library can fail: a parse error, a list of nodes that is no
path, or a tree that does not match.
-/
namespace Packrat

/-- Why nodes do not form a path. -/
inductive PathError where
  /-- There are no nodes. -/
  | empty
  /-- The node at `index` is not a child of the one before. -/
  | broken (index : Nat)
  /-- The node is not a child of the last one of the path. -/
  | notAChild
  deriving DecidableEq, Repr

/-- What is wrong with the nodes, in words. -/
def PathError.message : PathError → String
  | empty => "Broken path: a path needs at least one node"
  | broken index => "Broken path: node " ++ toString index ++ " is not a child of its predecessor"
  | notAChild => "Provided node is not a child of the last node in the path"

/-- Why an operation failed. -/
inductive Failure where
  | parse (error : ParseError)
  | path (error : PathError)
  /-- A tree does not match; `reason` names the matcher and the path. -/
  | unmatched (reason : String)
  deriving DecidableEq

/-- The failure in words. -/
def Failure.message : Failure → String
  | parse error => "Parse error: " ++ error.render
  | path error => "Path error: " ++ error.message
  | unmatched reason => "Match failed: " ++ reason

end Packrat
