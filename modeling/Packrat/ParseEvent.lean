import Packrat.Memo
import Packrat.TraceRecord

/-! # Events of a parse

A parse keeps a log of what happens in it.  Part of the log is the parse's trace, which `record?`
gives; the rest is bookkeeping that no record shows: which consumers started and what they left
behind, which results were asked for and worked out, and which errors no one may recover from.
-/
namespace Packrat

/-- The nodes that a consumer leaves behind, in terms of those of the consumers it ran. -/
inductive Yield where
  /-- No nodes. -/
  | nothing
  /-- The nodes of its parts. -/
  | parts
  /-- A new node without children. -/
  | leaf
  /-- A new node with the children of the only node of its part. -/
  | rewritten
  /-- The node stored for `key`, whose children are the nodes of the parts. -/
  | stored (key : MemoKey)
  /-- The node stored for `key`, which has no children. -/
  | joined (key : MemoKey)
  /-- The children of the children of the node stored for `key`. -/
  | lifted (key : MemoKey)
  /-- A new node for each child of a child of the node stored for `key`, with the same children. -/
  | reattached (key : MemoKey)
  deriving DecidableEq, Repr

/-- Something that happens during a parse. -/
inductive ParseEvent where
  /-- A consumer starts. -/
  | started
  /-- A consumer ends with a result or a recoverable error. -/
  | ended (yield : Yield)
  /-- A memoizing consumer is asked for a result. -/
  | requested (key : MemoKey)
  /-- A memoizing consumer works its result out. -/
  | produced (key : MemoKey)
  /-- A recoverable error is stored. -/
  | failureStored (key : MemoKey)
  /-- A consumer ends with an error that is not recoverable. -/
  | raised (error : ParseError)
  | memoHit (key : MemoKey)
  | memoFailureHit (key : MemoKey)
  | memoStored (key : MemoKey)
  | branchFailed (position : Nat) (error : ParseError)
  | noBranchMatched (position : Nat)
  | repetitionStopped (position count : Nat) (error : ParseError)
  /-- A parse of a text of `bytes` bytes starts. -/
  | parseStarted (bytes : Nat)
  | parseAborted (error : ParseError)
  | parseFinished (consumed entries hits : Nat)

namespace ParseEvent

/-- The record of something that happened to the memo entry at `key`. -/
def memoRecord (message : String) (key : MemoKey) : TraceRecord :=
  ⟨.trace, "memo", message,
    [("position", .nat key.start), ("consumer", .consumer key.consumer.number.toNat)]⟩

/-- The record that shows an event, if it is traced. -/
def record? : ParseEvent → Option TraceRecord
  | started => none
  | ended _ => none
  | requested _ => none
  | produced _ => none
  | failureStored _ => none
  | raised _ => none
  | memoHit key => some (memoRecord "memo hit" key)
  | memoFailureHit key => some (memoRecord "memo hit (failure)" key)
  | memoStored key => some (memoRecord "memo store" key)
  | branchFailed position error =>
    some ⟨.trace, "alternative", "branch failed",
      [("position", .nat position), ("error", .text error.render)]⟩
  | noBranchMatched position =>
    some ⟨.debug, "alternative", "no alternative matched", [("position", .nat position)]⟩
  | repetitionStopped position count error =>
    some ⟨.debug, "repeat", "repetition stopped",
      [("position", .nat position), ("count", .nat count), ("error", .text error.render)]⟩
  | parseStarted bytes => some ⟨.debug, "parse", "parse started", [("length", .nat bytes)]⟩
  | parseAborted error =>
    some ⟨.warn, "parse", "parse aborted", [("error", .text error.render)]⟩
  | parseFinished consumed entries hits =>
    some ⟨.debug, "parse", "parse finished",
      [("consumed", .nat consumed), ("memo_entries", .nat entries), ("memo_hits", .nat hits)]⟩

end ParseEvent

namespace MemoTable

variable {α : Type}

/-- Asking: a look-up, with the event it is and the answer in the terms of a parse: nothing, a
result, or the error stored. -/
def ask (t : MemoTable α) (key : MemoKey) :
    Except ParseError (Option α) × Option ParseEvent × MemoTable α :=
  match t.lookup key with
  | (some (.matched result), t) => (.ok (some result), some (.memoHit key), t)
  | (some (.failed error), t) => (.error error, some (.memoFailureHit key), t)
  | (none, t) => (.ok none, none, t)

/-- Remembering, with the event it is.  The answer is the result that is stored from now on, or the
contradiction. -/
def keep (same : α → α → Bool) (t : MemoTable α) (key : MemoKey) (result : α) :
    Except ParseError α × Option ParseEvent × MemoTable α :=
  match t.remember same key result with
  | (.stored, t) => (.ok result, some (.memoStored key), t)
  | (.known old, t) => (.ok old, none, t)
  | (.refused, t) => (.error key.contradiction, none, t)

/-- Remembering a failure, with the event it is. -/
def keepFailure (t : MemoTable α) (key : MemoKey) (error : ParseError) :
    Except ParseError Unit × Option ParseEvent × MemoTable α :=
  match t.rememberFailure key error with
  | (true, t) => (.ok (), some (.failureStored key), t)
  | (false, t) => (.error key.contradiction, none, t)

/-! ## The answers of a table, by its entry for the key -/

section Answers

variable {t : MemoTable α} {key : MemoKey}

theorem ask_of_none (h : t.entries[key]? = none) : t.ask key = (.ok none, none, t) := by
  simp [ask, lookup, h]

theorem ask_of_matched {result : α} (h : t.entries[key]? = some (.matched result)) :
    t.ask key = (.ok (some result), some (.memoHit key), { t with hits := t.hits + 1 }) := by
  simp [ask, lookup, h]

theorem ask_of_failed {error : ParseError} (h : t.entries[key]? = some (.failed error)) :
    t.ask key = (.error error, some (.memoFailureHit key), { t with hits := t.hits + 1 }) := by
  simp [ask, lookup, h]

variable {same : α → α → Bool} {result : α}

theorem keep_of_none (h : t.entries[key]? = none) :
    t.keep same key result =
      (.ok result, some (.memoStored key),
        { t with entries := t.entries.insert key (.matched result) }) := by
  simp [keep, remember, h]

theorem keep_of_same {old : α} (h : t.entries[key]? = some (.matched old))
    (hsame : same old result = true) : t.keep same key result = (.ok old, none, t) := by
  simp [keep, remember, h, hsame]

theorem keep_of_contradiction {entry : MemoEntry α} (h : t.entries[key]? = some entry)
    (hne : ∀ old, entry = .matched old → same old result = false) :
    t.keep same key result = (.error key.contradiction, none, t) := by
  cases entry with
  | matched old => simp [keep, remember, h, hne old rfl]
  | failed e => simp [keep, remember, h]

variable {error : ParseError}

theorem keepFailure_of_matched {old : α} (h : t.entries[key]? = some (.matched old)) :
    t.keepFailure key error = (.error key.contradiction, none, t) := by
  simp [keepFailure, rememberFailure, h]

theorem keepFailure_of_not_matched (h : ∀ old, t.entries[key]? ≠ some (.matched old)) :
    t.keepFailure key error =
      (.ok (), some (.failureStored key),
        { t with entries := t.entries.insert key (.failed error) }) := by
  rcases hentry : t.entries[key]? with _ | ⟨old⟩ | ⟨e⟩
  · simp [keepFailure, rememberFailure, hentry]
  · exact absurd hentry (h old)
  · simp [keepFailure, rememberFailure, hentry]

end Answers

end MemoTable
end Packrat
