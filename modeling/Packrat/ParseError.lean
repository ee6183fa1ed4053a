import Packrat.Text.Quoted

/-! # Parse errors

A parse fails in one of three ways.  A *recoverable* error says that a production does not match
here, so that a choice goes on to its next branch and a repetition stops.  A *fatal* error says that
the grammar had committed itself, and nothing backtracks past it; it keeps the error it was made of
as its cause.  An *inconsistency* is a fault of the grammar, and ends the parse like a fatal error.
All but the last collect the names of the frames they passed through in a context.
-/
namespace Packrat

/-- Why a parse failed, and where. -/
inductive ParseError where
  /-- A token, a class of characters or a bound did not match. -/
  | mismatch (message : String) (position : Nat) (context : Option String)
  /-- No branch of an ordered choice matched. -/
  | noAlternative (position : Nat) (context : Option String)
  /-- The grammar matched, but not up to the end of the text. -/
  | remainingInput (remaining : String) (position : Nat) (context : Option String)
  /-- A production failed after the grammar had committed itself to it. -/
  | fatal (message : String) (position : Nat) (context : Option String)
      (cause : Option ParseError)
  /-- The grammar contradicts itself. -/
  | inconsistent (message : String) (position : Nat)

namespace ParseError

/-- Where the error was raised. -/
def position : ParseError → Nat
  | mismatch _ position _ => position
  | noAlternative position _ => position
  | remainingInput _ position _ => position
  | fatal _ position _ _ => position
  | inconsistent _ position => position

/-- The frames the error passed through, outermost first. -/
def context : ParseError → Option String
  | mismatch _ _ context => context
  | noAlternative _ context => context
  | remainingInput _ _ context => context
  | fatal _ _ context _ => context
  | inconsistent _ _ => none

/-- The error that a fatal one was made of. -/
def cause : ParseError → Option ParseError
  | fatal _ _ _ cause => cause
  | _ => none

/-- The error in words, without position and context. -/
def message : ParseError → String
  | mismatch message _ _ => message
  | noAlternative _ _ => "No matching alternative"
  | remainingInput remaining _ _ => "Remaining characters: " ++ remaining
  | fatal message _ _ _ => message
  | inconsistent message _ => message

/-- Whether a choice may try its next branch after the error. -/
def isRecoverable : ParseError → Bool
  | mismatch .. => true
  | noAlternative .. => true
  | remainingInput .. => true
  | fatal .. => false
  | inconsistent .. => false

/-- A context with one more frame around it. -/
def chain (frame : String) : Option String → Option String
  | some context => some (frame ++ " -> " ++ context)
  | none => some frame

/-- The error as it leaves the frame named `frame`.  An inconsistency has no context. -/
def withContext (frame : String) : ParseError → ParseError
  | mismatch message position context => mismatch message position (chain frame context)
  | noAlternative position context => noAlternative position (chain frame context)
  | remainingInput remaining position context =>
    remainingInput remaining position (chain frame context)
  | fatal message position context cause => fatal message position (chain frame context) cause
  | inconsistent message position => inconsistent message position

/-- Commitment: a recoverable error becomes the cause of a fatal one, and any other stays. -/
def escalate (e : ParseError) : ParseError :=
  if e.isRecoverable then fatal e.message e.position e.context (some e) else e

/-- A context as it is shown. -/
def renderContext : Option String → String
  | none => "None"
  | some context => "Some(" ++ Text.quote context ++ ")"

/-- The error in words, with its position and its context. -/
def render : ParseError → String
  | mismatch message position context =>
    "Mismatch: " ++ message ++ " at position " ++ toString position ++ ", context: "
      ++ renderContext context
  | noAlternative position context =>
    "No alternative matched at position " ++ toString position ++ ", context: "
      ++ renderContext context
  | remainingInput remaining position context =>
    "Remaining characters: \"" ++ remaining ++ "\" at position " ++ toString position
      ++ ", context: " ++ renderContext context
  | fatal message position context _ =>
    "Fatal: " ++ message ++ " at position " ++ toString position ++ ", context: "
      ++ renderContext context
  | inconsistent message position =>
    "Inconsistent: " ++ message ++ " at position " ++ toString position

/-- Whether two errors agree in all parts, causes included. -/
def same : ParseError → ParseError → Bool
  | mismatch m p c, mismatch m' p' c' => m = m' ∧ p = p' ∧ c = c'
  | noAlternative p c, noAlternative p' c' => p = p' ∧ c = c'
  | remainingInput r p c, remainingInput r' p' c' => r = r' ∧ p = p' ∧ c = c'
  | fatal m p c none, fatal m' p' c' none => m = m' ∧ p = p' ∧ c = c'
  | fatal m p c (some e), fatal m' p' c' (some e') =>
    decide (m = m' ∧ p = p' ∧ c = c') && same e e'
  | inconsistent m p, inconsistent m' p' => m = m' ∧ p = p'
  | _, _ => false

theorem same_self : (e : ParseError) → e.same e = true
  | mismatch .. => by simp [same]
  | noAlternative .. => by simp [same]
  | remainingInput .. => by simp [same]
  | fatal _ _ _ none => by simp [same]
  | fatal _ _ _ (some e) => by simp [same, same_self e]
  | inconsistent .. => by simp [same]

theorem eq_of_same {a b : ParseError} (h : a.same b = true) : a = b := by
  fun_induction same a b <;> simp_all

theorem same_iff (a b : ParseError) : a.same b = true ↔ a = b :=
  ⟨eq_of_same, fun h => h ▸ same_self a⟩

instance : DecidableEq ParseError := fun a b => decidable_of_iff _ (same_iff a b)

end ParseError
end Packrat
