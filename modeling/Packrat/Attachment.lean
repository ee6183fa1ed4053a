import Packrat.Text.Quoted

/-! # Attachments

An attachment is a value that a grammar hangs on a node.  Trees only compare and show attachments,
so a payload is either one of a few common types or `custom`, which records all that can be observed
of a value of any other type: the name of the type, how the value is shown, and which values of the
type it equals.  Equality of payloads need not be reflexive (a number that is not a number differs
from itself), yet an attachment always equals itself: two attachments are the same when they are one
allocation or when their payloads are equal.

Values that are looked up in a table are hashed piece by piece (`HashItem`).  Of an attachment only
the type of its payload is.
-/
namespace Packrat

/-- A piece of the data that is fed to a hasher. -/
inductive HashItem where
  /-- Which of several forms the value has whose parts follow. -/
  | kind (number : Nat)
  | number (value : Nat)
  | text (value : String)
  /-- The identity of a type. -/
  | type (name : String)
  /-- The identity of an allocation. -/
  | address (id : Nat)
  deriving DecidableEq, Hashable, Repr

/-- What is hashed of an optional text. -/
def hashedText : Option String → List HashItem
  | none => [.kind 0]
  | some text => [.kind 1, .text text]

/-- A value that can be attached to a node. -/
inductive Payload where
  | text (value : String)
  | int64 (value : Int)
  | int32 (value : Int)
  | byte (value : Nat)
  | bool (value : Bool)
  | char (value : Char)
  | unit
  | maybeInt (value : Option Int)
  | ints (value : List Int)
  /-- A value of another type.  Values of one type are equal when they are in one class, and one
  outside every class does not even equal itself. -/
  | custom (type : String) (equalityClass : Option String) (shown : String)
  deriving DecidableEq, Repr

namespace Payload

/-- Equality of payloads: values of different types are never equal. -/
def same : Payload → Payload → Bool
  | custom type cls _, custom type' cls' _ => type == type' && cls.isSome && cls == cls'
  | a, b => a == b

/-- The type of a payload, as a key that equal payloads share. -/
def typeName : Payload → String
  | text _ => "text"
  | int64 _ => "int64"
  | int32 _ => "int32"
  | byte _ => "byte"
  | bool _ => "bool"
  | char _ => "char"
  | unit => "unit"
  | maybeInt _ => "maybeInt"
  | ints _ => "ints"
  | custom type _ _ => type

/-- How a payload is shown in trees and labels. -/
def render : Payload → String
  | text value => Text.quote value
  | int64 value => toString value
  | int32 value => toString value
  | byte value => toString value
  | bool value => if value then "true" else "false"
  | char value => Text.quoteChar value
  | unit => "()"
  | maybeInt none => "None"
  | maybeInt (some value) => "Some(" ++ toString value ++ ")"
  | ints value => "[" ++ ", ".intercalate (value.map toString) ++ "]"
  | custom _ _ shown => shown

end Payload

/-- A payload together with the allocation that holds it.  Copies share the allocation. -/
structure Attachment where
  allocation : Nat
  payload : Payload
  deriving DecidableEq, Repr

namespace Attachment

/-- An attachment that no other one shares its allocation with.  It is used for payloads that equal
themselves, which need no allocation to be told apart. -/
def ofPayload (payload : Payload) : Attachment := ⟨0, payload⟩

/-- Equality of attachments: one allocation, or equal payloads. -/
def same (a b : Attachment) : Bool :=
  a == b || a.payload.same b.payload

/-- Equality of two optional attachments. -/
def sameOption : Option Attachment → Option Attachment → Bool
  | none, none => true
  | some a, some b => a.same b
  | _, _ => false

theorem same_self (a : Attachment) : a.same a = true := by simp [same]

theorem sameOption_self : (a : Option Attachment) → sameOption a a = true
  | none => rfl
  | some a => a.same_self

/-- What is hashed of an optional attachment: the type of its payload, which equal ones share. -/
def hashed : Option Attachment → List HashItem
  | none => [.kind 0]
  | some a => [.kind 1, .type a.payload.typeName]

/-- How an attachment is shown. -/
def render (a : Attachment) : String := a.payload.render

end Attachment
end Packrat
