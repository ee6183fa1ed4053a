/-! # Sets of code points as inversion lists

An inversion list is the increasing sequence of the code points at which membership switches: the
first one opens a run of members, the second one closes it, and so on.  A code point is a member
exactly when the number of switches at or below it is odd.  `countUpTo` finds that number by
halving, and `contains` reads membership off its parity.
-/
namespace Packrat
namespace Text

/-- A set of code points, written as the increasing sequence of its switches. -/
structure InversionList where
  switches : Array Nat

namespace InversionList

/-- Halving: the number of switches at or below `code`, given that all those below index `lo`
are and none from index `hi` on is.  The range from `lo` to `hi` is halved at most `steps` times. -/
def countUpTo (switches : Array Nat) (code : Nat) : (steps lo hi : Nat) → Nat
  | 0, lo, _ => lo
  | steps + 1, lo, hi =>
    if lo < hi then
      let mid := lo + (hi - lo) / 2
      if switches.getD mid 0 ≤ code then countUpTo switches code steps (mid + 1) hi
      else countUpTo switches code steps lo mid
    else
      lo

/-- Whether `code` is a member: an odd number of switches lies at or below it. -/
def contains (set : InversionList) (code : Nat) : Bool :=
  countUpTo set.switches code set.switches.size 0 set.switches.size % 2 == 1

/-- Whether the character `c` is a member. -/
def containsChar (set : InversionList) (c : Char) : Bool :=
  set.contains c.toNat

end InversionList
end Text
end Packrat
