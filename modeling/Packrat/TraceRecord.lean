/-! # Trace records

What happens inside a parse or a search can be followed through records.  A record names a channel,
says in words what happened, and holds the particulars in named fields.
-/
namespace Packrat

/-- How much a record matters. -/
inductive TraceLevel where
  | trace
  | debug
  | warn
  deriving DecidableEq, Repr

/-- The name of a level. -/
def TraceLevel.name : TraceLevel → String
  | trace => "TRACE"
  | debug => "DEBUG"
  | warn => "WARN"

/-- The value of a field. -/
inductive TraceValue where
  | nat (n : Nat)
  | bool (b : Bool)
  | text (s : String)
  /-- The number of a memoizing consumer. -/
  | consumer (number : Nat)
  deriving DecidableEq, Repr

/-- A record of something that happened. -/
structure TraceRecord where
  level : TraceLevel
  channel : String
  message : String
  fields : List (String × TraceValue)
  deriving DecidableEq, Repr

end Packrat
