import Std.Data.HashMap
import Packrat.Matcher.Basic
import Packrat.Session
import Packrat.TraceRecord
import Packrat.Traversal.PathStack

/-! # Remembered answers

A match remembers the answer of every matcher for every path, and evaluates a matcher for a path
only if no equal one has been evaluated for an equal path before.  A second answer for a key must
agree with the first one.  Since paths and matchers are compared by their contents, equal siblings
and matchers that were built separately share their answers.
-/
namespace Packrat

/-- What an answer is remembered for. -/
structure MatchKey where
  path : Path
  matcher : Matcher

namespace MatchKey

/-- Equality of keys: equal paths and equal matchers. -/
def same (a b : MatchKey) : Bool := a.path.same b.path && a.matcher.same b.matcher

instance : BEq MatchKey := ⟨same⟩

/-- What is hashed of a key. -/
def hashed (key : MatchKey) : List HashItem := key.path.hashed ++ key.matcher.hashed

instance : Hashable MatchKey := ⟨fun key => hash key.hashed⟩

end MatchKey

/-- Something that happens during a match or a search. -/
inductive MatchEvent where
  /-- The evaluation of a matcher for a path begins. -/
  | began (key : MatchKey)
  /-- The evaluation of a matcher for a path has an answer. -/
  | answered (key : MatchKey) (result : Bool)
  /-- A remembered answer is used. -/
  | memoHit (key : MatchKey) (result : Bool)
  /-- A traversal visits `path` while the paths of `pending` wait. -/
  | visited (path : Path) (pending : PathStack)
  /-- A search in the order named has ended. -/
  | searched (order : String) (matcher : Matcher) (found : Bool)

/-- The record that shows an event, if it is traced.  Evaluations are bookkeeping. -/
def MatchEvent.record? : MatchEvent → Option TraceRecord
  | began _ => none
  | answered _ _ => none
  | memoHit key result => some
    ⟨.trace, "match", "memo hit",
      [("path", .text key.path.render), ("matcher", .text key.matcher.render),
        ("result", .bool result)]⟩
  | visited path pending => some
    ⟨.trace, "traverse", "visit",
      [("path", .text path.render), ("pending", .text pending.render)]⟩
  | searched order matcher found => some
    ⟨.debug, "traverse", "find first",
      [("order", .text order), ("matcher", .text matcher.render), ("found", .bool found)]⟩

/-- What the contexts of a match share: the answers, how often each test was called, the counters
and the log. -/
structure MatchSession where
  answers : Std.HashMap MatchKey Bool := {}
  calls : List (Nat × Nat) := []
  counts : Counts := []
  log : Array MatchEvent := #[]

/-- A computation in a match.  The session survives a violation. -/
abbrev Matching (α : Type) := ExceptT Violation (StateM MatchSession) α

namespace Matching

variable {α β : Type}

/-- Running: the result of a computation and the session after it. -/
def exec (x : Matching α) (s : MatchSession) : Except Violation α × MatchSession := x.run.run s

/-- Writes an event into the log. -/
def emit (event : MatchEvent) : Matching Unit :=
  modify fun s => { s with log := s.log.push event }

/-- The number of answers remembered. -/
def memoSize : Matching Nat := do
  pure (← get).answers.size

/-- The number of calls of a test, before and with one more. -/
def nextCall (id : Nat) : List (Nat × Nat) → Nat × List (Nat × Nat)
  | [] => (0, [(id, 1)])
  | (other, n) :: rest =>
    if other = id then (n, (other, n + 1) :: rest)
    else
      let (call, rest) := nextCall id rest
      (call, (other, n) :: rest)

/-- Calls a test on `part`. -/
def callTest (p : Predicate α) (part : Option α) : Matching Bool := do
  let call ← modifyGet fun (s : MatchSession) =>
    let (call, calls) := nextCall p.id s.calls
    (call, { s with calls, counts := s.counts.increment p.name })
  pure (p.test call part)

/-- Stores an answer.  An answer stored before is replaced and must have been the same. -/
def record (key : MatchKey) (result : Bool) : Matching Unit := do
  let previous ← modifyGet fun (s : MatchSession) =>
    (s.answers[key]?, { s with answers := s.answers.insert key result })
  if previous.any (· != result) then throw .disagreeingMatch

/-- The answer for `key`: the one remembered, or what `compute` finds, which is remembered then. -/
def remembered (key : MatchKey) (compute : Matching Bool) : Matching Bool := do
  match (← get).answers[key]? with
  | some result => do
    emit (.memoHit key result)
    pure result
  | none => do
    emit (.began key)
    let result ← compute
    emit (.answered key result)
    record key result
    pure result

/-- Whether every node of a list passes; those after a failing one are not asked. -/
def allNodes (test : Node → Matching Bool) : List Node → Matching Bool
  | [] => pure true
  | node :: nodes => do
    if ← test node then allNodes test nodes else pure false

/-- Runs `action` with no answers remembered, and forgets what it remembers. -/
def inFreshMemo (action : Matching α) : Matching α := do
  let answers ← modifyGet fun (s : MatchSession) => (s.answers, { s with answers := {} })
  let result ← tryCatch (Except.ok <$> action) (fun v => pure (.error v))
  modify fun s => { s with answers }
  match result with
  | .ok a => pure a
  | .error v => throw v

/-! ## Running a computation step by step -/

@[simp] theorem exec_pure (a : α) (s : MatchSession) :
    (pure a : Matching α).exec s = (.ok a, s) := rfl

@[simp] theorem exec_throw (v : Violation) (s : MatchSession) :
    (throw v : Matching α).exec s = (.error v, s) := rfl

/-- The second computation starts in the session that the first one leaves, and does not start at
all if the first one breaks a precondition. -/
theorem exec_bind (x : Matching α) (f : α → Matching β) (s : MatchSession) :
    (x >>= f).exec s =
      match x.exec s with
      | (.ok a, s) => (f a).exec s
      | (.error v, s) => (.error v, s) := by
  show ExceptT.bind x f s = _
  simp only [ExceptT.bind, ExceptT.mk, bind, StateT.bind, exec, ExceptT.run, StateT.run]
  rcases x s with ⟨_ | _, _⟩ <;> rfl

@[simp] theorem exec_get (s : MatchSession) : (get : Matching MatchSession).exec s = (.ok s, s) :=
  rfl

@[simp] theorem exec_modify (f : MatchSession → MatchSession) (s : MatchSession) :
    (modify f : Matching PUnit).exec s = (.ok ⟨⟩, f s) := rfl

@[simp] theorem exec_modifyGet (f : MatchSession → α × MatchSession) (s : MatchSession) :
    (modifyGet f : Matching α).exec s = (.ok (f s).1, (f s).2) := rfl

@[simp] theorem exec_emit (event : MatchEvent) (s : MatchSession) :
    (emit event).exec s = (.ok ⟨⟩, { s with log := s.log.push event }) := rfl

theorem exec_callTest (p : Predicate α) (part : Option α) (s : MatchSession) :
    (callTest p part).exec s =
      (.ok (p.test (nextCall p.id s.calls).1 part),
        { s with calls := (nextCall p.id s.calls).2, counts := s.counts.increment p.name }) := rfl

/-- An answer is stored also when it disagrees with the one before. -/
theorem exec_record (key : MatchKey) (result : Bool) (s : MatchSession) :
    (record key result).exec s =
      (if s.answers[key]?.any (· != result) then .error .disagreeingMatch else .ok ⟨⟩,
        { s with answers := s.answers.insert key result }) := by
  rw [record, exec_bind]
  show (ite _ (throw _) (pure _) : Matching PUnit).exec _ = _
  split <;> rfl

/-- A remembered answer is given without computing it. -/
theorem exec_remembered_of_some {key : MatchKey} {result : Bool} {s : MatchSession}
    (hfound : s.answers[key]? = some result) (compute : Matching Bool) :
    (remembered key compute).exec s =
      (.ok result, { s with log := s.log.push (.memoHit key result) }) := by
  rw [remembered, exec_bind, exec_get]
  dsimp only
  rw [hfound]
  rfl

/-- An answer that is not remembered is computed and stored, unless it disagrees with one that was
stored meanwhile. -/
theorem exec_remembered_of_none {key : MatchKey} {result : Bool} {s s₁ : MatchSession}
    {compute : Matching Bool} (hnone : s.answers[key]? = none)
    (hcompute : compute.exec { s with log := s.log.push (.began key) } = (.ok result, s₁))
    (hagree : s₁.answers[key]?.any (· != result) = false) :
    (remembered key compute).exec s =
      (.ok result,
        { s₁ with
          answers := s₁.answers.insert key result
          log := s₁.log.push (.answered key result) }) := by
  rw [remembered, exec_bind, exec_get]
  dsimp only
  rw [hnone]
  dsimp only
  rw [exec_bind, exec_emit]
  dsimp only
  rw [exec_bind, hcompute]
  dsimp only
  rw [exec_bind, exec_emit]
  dsimp only
  rw [exec_bind, exec_record]
  dsimp only
  rw [hagree]
  rfl

/-- An action with a memo of its own runs as in a session without remembered answers, and those of
the session are there again afterwards. -/
theorem exec_inFreshMemo (action : Matching α) (s : MatchSession) :
    (inFreshMemo action).exec s =
      ((action.exec { s with answers := {} }).1,
        { (action.exec { s with answers := {} }).2 with answers := s.answers }) := by
  have hcaught : ∀ s, (tryCatch (Except.ok <$> action) fun v => pure (.error v) :
      Matching (Except Violation α)).exec s = (.ok (action.exec s).1, (action.exec s).2) := by
    intro s
    show (ExceptT.tryCatch (ExceptT.map Except.ok action) _ : Matching _) s = _
    simp only [ExceptT.tryCatch, ExceptT.map, ExceptT.mk, bind, StateT.bind, exec, ExceptT.run,
      StateT.run]
    rcases action s with ⟨_ | _, _⟩ <;> rfl
  rw [inFreshMemo, exec_bind, exec_modifyGet]
  dsimp only
  rw [exec_bind, hcaught]
  dsimp only
  rw [exec_bind, exec_modify]
  dsimp only
  cases (action.exec { s with answers := {} }).1 <;> rfl

end Matching

end Packrat
