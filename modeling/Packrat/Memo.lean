import Std.Data.HashMap
import Packrat.ParseError
import Packrat.Violation

/-! # The memo table of a parse

A memoizing consumer stores what it found for a window, a result or a recoverable error, and finds
it again when it is asked for the same window.  The key holds both ends of the window, so a narrowed
window never answers with a result that was found with more text in view.

A second result for a key must equal the first one.  `remember` refuses a result that differs from
the stored one or contradicts a stored error, and `rememberFailure` an error that contradicts a
stored result; either way the fault lies with the grammar.  A stored error is replaced by a later
one.
-/
namespace Packrat

/-- The identity of a memoizing consumer. -/
structure ConsumerId where
  number : UInt32
  deriving DecidableEq, Hashable, Repr

/-- How an identity is shown. -/
def ConsumerId.render (id : ConsumerId) : String := "#" ++ toString id.number.toNat

/-- Where a consumer was asked for: the ends of the window, and the consumer. -/
structure MemoKey where
  start : Nat
  stop : Nat
  consumer : ConsumerId
  deriving DecidableEq, Hashable, Repr

/-- What is stored for a key. -/
inductive MemoEntry (α : Type) where
  | matched (result : α)
  | failed (error : ParseError)

/-- The memo table of a parse, and the number of questions it has answered. -/
structure MemoTable (α : Type) where
  entries : Std.HashMap MemoKey (MemoEntry α) := {}
  hits : Nat := 0

namespace MemoTable

variable {α : Type}

/-- A table without entries. -/
def empty : MemoTable α := {}

@[simp] theorem getElem?_empty (key : MemoKey) : (empty : MemoTable α).entries[key]? = none :=
  Std.HashMap.getElem?_empty

/-- The largest number of entries that a table can be given room for: no larger one can be addressed
in 64 bits. -/
def maxCapacity : Nat := 0xE0000000000000

/-- A table without entries that has room for `capacity` of them.  It can grow past that, so that
room only saves time. -/
def withCapacity (capacity : Nat) : Except Violation (MemoTable α) :=
  if capacity ≤ maxCapacity then .ok empty else .error .tableTooLarge

/-- The number of entries. -/
def size (t : MemoTable α) : Nat := t.entries.size

/-- Whether there are no entries. -/
def isEmpty (t : MemoTable α) : Bool := t.entries.isEmpty

/-- Looking up: what is stored for `key`.  A stored entry counts as a hit. -/
def lookup (t : MemoTable α) (key : MemoKey) : Option (MemoEntry α) × MemoTable α :=
  match t.entries[key]? with
  | some entry => (some entry, { t with hits := t.hits + 1 })
  | none => (none, t)

/-- What became of a result to be stored. -/
inductive Remembered (α : Type) where
  /-- It was stored. -/
  | stored
  /-- An equal result, `old`, had been stored before. -/
  | known (old : α)
  /-- Something else had been stored before. -/
  | refused

/-- Remembering: `result` is stored for `key` unless there is an entry already. -/
def remember (same : α → α → Bool) (t : MemoTable α) (key : MemoKey) (result : α) :
    Remembered α × MemoTable α :=
  match t.entries[key]? with
  | some (.matched old) => (if same old result then .known old else .refused, t)
  | some (.failed _) => (.refused, t)
  | none => (.stored, { t with entries := t.entries.insert key (.matched result) })

/-- Remembering a failure: `error` is stored for `key` unless a result is.  The answer tells whether
it was stored. -/
def rememberFailure (t : MemoTable α) (key : MemoKey) (error : ParseError) : Bool × MemoTable α :=
  match t.entries[key]? with
  | some (.matched _) => (false, t)
  | _ => (true, { t with entries := t.entries.insert key (.failed error) })

end MemoTable

/-- The fault of a consumer that contradicts itself. -/
def MemoKey.contradiction (key : MemoKey) : ParseError :=
  .inconsistent
    ("consumer " ++ key.consumer.render ++ " yielded different results on different rounds")
    key.start

end Packrat
