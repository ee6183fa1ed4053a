import Packrat.Matcher.Session

/-! # Evaluating matchers

A matcher is evaluated at the last node of a path.  Its parts are asked for by way of the remembered
answers, from left to right, and no further than the answer needs.
-/
namespace Packrat

namespace Matcher

mutual

/-- Evaluation at the last node of a path, which does not ask for a remembered answer of the matcher
itself. -/
def evaluate : Matcher → Path → Matching Bool
  | childCount n, p => pure (p.leaf.children.length == n)
  | eachChild m, p =>
    Matching.allNodes
      (fun node => Matching.remembered ⟨p.child node, m⟩ (m.evaluate (p.child node)))
      p.leaf.children
  | parent m, p =>
    match p.parent? with
    | some q => Matching.remembered ⟨q, m⟩ (m.evaluate q)
    | none => pure false
  | attachment expected, p => pure (Attachment.sameOption p.leaf.attachment expected)
  | value expected, p => pure (p.leaf.value == expected)
  | testAttachment test, p => Matching.callTest test p.leaf.attachment
  | testValue test, p => Matching.callTest test p.leaf.value
  | children ms, p =>
    if p.leaf.children.length = ms.length then evaluateEach ms p p.leaf.children else pure false
  | all ms, p => evaluateAll ms p
  | any ms, p => evaluateAny ms p

/-- Whether each of `nodes` satisfies the matcher in its place, as a child of the leaf. -/
def evaluateEach : List Matcher → Path → List Node → Matching Bool
  | m :: ms, p, node :: nodes => do
    if ← Matching.remembered ⟨p.child node, m⟩ (m.evaluate (p.child node)) then
      evaluateEach ms p nodes
    else pure false
  | _, _, _ => pure true

/-- Whether all matchers hold; those after a failing one are not asked. -/
def evaluateAll : List Matcher → Path → Matching Bool
  | [], _ => pure true
  | m :: ms, p => do
    if ← Matching.remembered ⟨p, m⟩ (m.evaluate p) then evaluateAll ms p else pure false

/-- Whether some matcher holds; those after it are not asked. -/
def evaluateAny : List Matcher → Path → Matching Bool
  | [], _ => pure false
  | m :: ms, p => do
    if ← Matching.remembered ⟨p, m⟩ (m.evaluate p) then pure true else evaluateAny ms p

end

/-- Matching: whether `m` holds at the last node of `p`, by a remembered answer if there is one. -/
def check (m : Matcher) (p : Path) : Matching Bool :=
  Matching.remembered ⟨p, m⟩ (m.evaluate p)

/-- Matching without the answers remembered so far. -/
def checkAlone (m : Matcher) (p : Path) : Matching Bool :=
  Matching.inFreshMemo (m.check p)

/-- Matching with a test that asks for its own matcher before it answers.  The inner call answers
yes, and its answer is remembered when the outer one, `result`, comes. -/
def checkReentrant (m : Matcher) (p : Path) (result : Bool) : Matching Bool :=
  Matching.remembered ⟨p, m⟩ do
    let _ ← Matching.remembered ⟨p, m⟩ (pure true)
    pure result

/-- The failure of a match: which matcher does not hold where. -/
def mismatch (m : Matcher) (p : Path) : Failure :=
  .unmatched (m.render ++ " does not match the path " ++ p.render)

/-- Asserting: `nodes` must form a path at the end of which `m` holds. -/
def assertMatches (m : Matcher) (nodes : List Node) : Matching (Except Failure Unit) :=
  match Path.ofNodes nodes with
  | .error e => pure (.error (.path e))
  | .ok p => do
    if ← m.checkAlone p then pure (.ok ()) else pure (.error (m.mismatch p))

end Matcher
end Packrat
