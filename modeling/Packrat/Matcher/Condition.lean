import Packrat.CharClass
import Packrat.Matcher.Basic

/-! # Conditions on parts

A condition on a value or an attachment becomes a test once it is given a name and an identity.
-/
namespace Packrat

/-- A condition on a part that a node may lack, given the number of the call. -/
abbrev Condition (α : Type) := Nat → Option α → Bool

namespace Condition

variable {α : Type}

/-- The part is there. -/
def isSome : Condition α := fun _ part => part.isSome

/-- The part is missing. -/
def isNone : Condition α := fun _ part => part.isNone

/-- The value starts with `start`. -/
def startsWith (start : String) : Condition String := fun _ value =>
  value.any fun v => start.toList.isPrefixOf v.toList

/-- The value has `count` characters. -/
def hasLength (count : Nat) : Condition String := fun _ value =>
  value.any fun v => v.length == count

/-- There is a value, and a class holds all its characters. -/
def consistsOf (cls : CharClass) : Condition String := fun _ value =>
  value.any fun v => v.toList.all cls.contains

/-- Every other call is answered by yes, the first one included. -/
def alternating : Condition α := fun call _ => call % 2 == 0

/-- The attachment is a text. -/
def isText : Condition Attachment := fun _ attachment =>
  attachment.any fun a => match a.payload with
    | .text _ => true
    | _ => false

/-- The attachment is an integer of 64 bits that satisfies `p`. -/
def isInt (p : Int → Bool) : Condition Attachment := fun _ attachment =>
  attachment.any fun a => match a.payload with
    | .int64 n => p n
    | _ => false

end Condition
end Packrat
