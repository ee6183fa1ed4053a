import Packrat.Node.Basic
import Packrat.ParseEvent

/-! # What a parse carries along

A session holds what consumers share while they run: the memo table, the one-time flags that have
been used up, the counters and the log.  A computation in a session keeps it also when it does not
end with a result, because a precondition was broken or the fuel ran out.
-/
namespace Packrat

/-- How often each counter was called.  A counter is listed once it is declared. -/
abbrev Counts := List (String × Nat)

namespace Counts

/-- The counts with a counter for `name`, which starts at zero. -/
def declare : Counts → String → Counts
  | [], name => [(name, 0)]
  | (other, n) :: rest, name =>
    if other = name then (other, n) :: rest else (other, n) :: declare rest name

/-- The counts with one more call of `name`. -/
def increment : Counts → String → Counts
  | [], name => [(name, 1)]
  | (other, n) :: rest, name =>
    if other = name then (other, n + 1) :: rest else (other, n) :: increment rest name

end Counts

/-- What the consumers of a parse share. -/
structure Session where
  memo : MemoTable Node := .empty
  spent : List Nat := []
  counts : Counts := []
  log : Array ParseEvent := #[]

/-- The session with one more event in its log. -/
def Session.note (s : Session) (event : ParseEvent) : Session :=
  { s with log := s.log.push event }

@[simp] theorem Session.memo_note (s : Session) (event : ParseEvent) :
    (s.note event).memo = s.memo := rfl

@[simp] theorem Session.log_note (s : Session) (event : ParseEvent) :
    (s.note event).log = s.log.push event := rfl

/-- Why a computation has no result. -/
inductive Halt where
  /-- A precondition was broken. -/
  | violation (v : Violation)
  /-- The computation is nested deeper than its fuel allows. -/
  | outOfFuel
  deriving DecidableEq, Repr

/-- A computation in a session. -/
abbrev Eval (α : Type) := ExceptT Halt (StateM Session) α

namespace Eval

variable {α β : Type}

/-- Running: the result of a computation and the session after it. -/
def exec (x : Eval α) (s : Session) : Except Halt α × Session := x.run.run s

/-- The result of a checked operation. -/
def check : Except Violation α → Eval α
  | .ok a => pure a
  | .error v => throw (.violation v)

/-- Writes an event into the log. -/
def emit (event : ParseEvent) : Eval Unit :=
  modify fun s => { s with log := s.log.push event }

/-- An operation on the memo table, whose event goes into the log. -/
def onMemo (op : MemoTable Node → α × Option ParseEvent × MemoTable Node) : Eval α :=
  modifyGet fun s =>
    let (a, event, memo) := op s.memo
    (a, { s with memo, log := match event with
      | some e => s.log.push e
      | none => s.log })

/-- The number of entries and of hits of the memo table. -/
def memoStatistics : Eval (Nat × Nat) := do
  let s ← get
  pure (s.memo.size, s.memo.hits)

/-! ## Running a computation step by step -/

@[simp] theorem exec_pure (a : α) (s : Session) : (pure a : Eval α).exec s = (.ok a, s) := rfl

@[simp] theorem exec_throw (h : Halt) (s : Session) :
    (throw h : Eval α).exec s = (.error h, s) := rfl

/-- The second computation starts in the session that the first one leaves, and does not start at
all if the first one halts. -/
theorem exec_bind (x : Eval α) (f : α → Eval β) (s : Session) :
    (x >>= f).exec s =
      match x.exec s with
      | (.ok a, s) => (f a).exec s
      | (.error h, s) => (.error h, s) := by
  show ExceptT.bind x f s = _
  simp only [ExceptT.bind, ExceptT.mk, bind, StateT.bind, exec, ExceptT.run, StateT.run]
  rcases x s with ⟨_ | _, _⟩ <;> rfl

@[simp] theorem exec_get (s : Session) : (get : Eval Session).exec s = (.ok s, s) := rfl

@[simp] theorem exec_modify (f : Session → Session) (s : Session) :
    (modify f : Eval PUnit).exec s = (.ok ⟨⟩, f s) := rfl

@[simp] theorem exec_check_ok (a : α) (s : Session) : (check (.ok a)).exec s = (.ok a, s) := rfl

@[simp] theorem exec_check_error (v : Violation) (s : Session) :
    (check (.error v) : Eval α).exec s = (.error (.violation v), s) := rfl

theorem exec_check (x : Except Violation α) (s : Session) :
    (check x).exec s = (x.mapError .violation, s) := by
  cases x <;> rfl

@[simp] theorem exec_emit (event : ParseEvent) (s : Session) :
    (emit event).exec s = (.ok ⟨⟩, s.note event) := rfl

@[simp] theorem exec_onMemo (op : MemoTable Node → α × Option ParseEvent × MemoTable Node)
    (s : Session) :
    (onMemo op).exec s =
      (.ok (op s.memo).1,
        { s with
          memo := (op s.memo).2.2
          log := match (op s.memo).2.1 with
            | some e => s.log.push e
            | none => s.log }) := rfl

end Eval
end Packrat
