/-! # Broken preconditions

Some operations ask something of their caller: a window must lie inside its text, a choice needs a
branch.  A call that breaks its precondition has no result at all; it yields a `Violation`, which is
kept apart from a parse failure, the ordinary answer "this grammar does not match here".
-/
namespace Packrat

/-- The precondition that a call broke. -/
inductive Violation where
  /-- A window would end before it starts, or behind the end of its text. -/
  | windowOutOfBounds
  /-- A slice would end before it starts, or behind the end of its text. -/
  | sliceOutOfBounds
  /-- The length of a span that ends before it starts was asked for. -/
  | invertedSpan
  /-- A position or a count left the range of 64-bit naturals. -/
  | positionOverflow
  /-- A sum left the range of signed 64-bit integers. -/
  | sumOverflow
  /-- Room was asked for more entries than any table can hold. -/
  | tableTooLarge
  /-- An ordered choice was built from no branches. -/
  | noBranches
  /-- A matcher answered twice for one path, and differently. -/
  | disagreeingMatch
  deriving DecidableEq, Repr

/-- What went wrong, in words. -/
def Violation.message : Violation → String
  | windowOutOfBounds => "A window must lie inside its text"
  | sliceOutOfBounds => "A slice must lie inside its text"
  | invertedSpan => "A span must not end before it starts"
  | positionOverflow => "A position must fit in 64 bits"
  | sumOverflow => "A sum must fit in 64 bits"
  | tableTooLarge => "A table must fit in memory"
  | noBranches => "At least one parser required as argument"
  | disagreeingMatch => "A matcher must answer the same for the same path"

/-- The number of values of a 64-bit position. -/
def positionBound : Nat := 0x10000000000000000

/-- Checked addition: `a + b` as a position. -/
def addPosition (a b : Nat) : Except Violation Nat :=
  if a + b < positionBound then .ok (a + b) else .error .positionOverflow

/-- Checked addition: `a + b` as a signed 64-bit integer. -/
def addInt64 (a b : Int) : Except Violation Int :=
  if -0x8000000000000000 ≤ a + b ∧ a + b < 0x8000000000000000 then .ok (a + b)
  else .error .sumOverflow

/-! ## Going on with a checked result -/

section Checked

variable {ε ε' α β : Type}

@[simp] theorem ok_bind (a : α) (f : α → Except ε β) : (Except.ok a >>= f) = f a := rfl

@[simp] theorem error_bind (e : ε) (f : α → Except ε β) :
    ((Except.error e : Except ε α) >>= f) = .error e := rfl

@[simp] theorem pure_eq_ok (a : α) : (pure a : Except ε α) = .ok a := rfl

@[simp] theorem map_ok (f : α → β) (a : α) : (Except.ok a : Except ε α).map f = .ok (f a) := rfl

@[simp] theorem map_error (f : α → β) (e : ε) :
    (Except.error e : Except ε α).map f = .error e := rfl

@[simp] theorem mapError_ok (f : ε → ε') (a : α) :
    (Except.ok a : Except ε α).mapError f = .ok a := rfl

@[simp] theorem mapError_error (f : ε → ε') (e : ε) :
    (Except.error e : Except ε α).mapError f = .error (f e) := rfl

theorem bind_eq_ok {x : Except ε α} {f : α → Except ε β} {b : β} :
    (x >>= f) = .ok b ↔ ∃ a, x = .ok a ∧ f a = .ok b := by
  cases x <;> simp

theorem map_eq_ok {x : Except ε α} {f : α → β} {b : β} :
    x.map f = .ok b ↔ ∃ a, x = .ok a ∧ f a = b := by
  cases x <;> simp

theorem map_eq_error {x : Except ε α} {f : α → β} {e : ε} :
    x.map f = .error e ↔ x = .error e := by
  cases x <;> simp

end Checked

end Packrat
