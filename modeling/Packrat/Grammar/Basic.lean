import Packrat.CharClass
import Packrat.Factory.Basic
import Packrat.Memo
import Packrat.Translator

/-! # Grammars

A grammar is a tree of consumers.  A `Production` works out a node of its own, and as part of a
grammar it is always wrapped in a memoizing consumer with an identity; all other consumers are run
again each time.  Recursion goes through references, which name the grammars that a set of bindings
holds for them; a reference may well be unbound.
-/
namespace Packrat

mutual

/-- A consumer of text. -/
inductive Grammar where
  /-- The characters of `token`. -/
  | exact (token : String) (factory : Option Factory)
  /-- As many characters of a class as there are, at least `min` and at most `max`. -/
  | charRun (min : Nat) (max : Option Nat) (cls : CharClass) (factory : Option Factory)
  /-- The end of the window. -/
  | endOfInput
  /-- What `body` matches, without its nodes. -/
  | skip (body : Grammar)
  /-- What `body` matches; that it does not match is fatal. -/
  | require (body : Grammar)
  /-- What `body` matches; its errors pass through a frame named `name`. -/
  | group (name : String) (body : Grammar)
  /-- What `body` matches, whose only node gets another value. -/
  | replace (translator : Translator) (body : Grammar)
  /-- What the grammar bound to `name` matches. -/
  | reference (name : String)
  /-- What a production matches, worked out once for each window. -/
  | memoized (id : ConsumerId) (production : Production)
  /-- What `body` matches; the calls are counted under `name`. -/
  | counted (name : String) (body : Grammar)
  /-- What `body` matches when it has no more than `size` characters in view. -/
  | windowed (size : Nat) (body : Grammar)
  /-- What `first` matches on the very first call, and `later` afterwards. -/
  | once (flag : Nat) (first later : Grammar)
  /-- Nothing: the error is raised at each call. -/
  | fail (error : ParseError)

/-- The way a memoizing consumer works out its node. -/
inductive Production where
  /-- Every part in order. -/
  | sequence (parts : List Grammar) (factory : Option Factory)
  /-- The first branch that matches. -/
  | choice (branches : List Grammar) (factory : Option Factory)
  /-- As many matches of `body` as there are, at least `min` and at most `max`. -/
  | repetition (min : Nat) (max : Option Nat) (body : Grammar) (factory : Option Factory)
  /-- What `body` matches, where the children of its nodes take the place of the nodes.  A factory
  gives each of those children its attachment anew. -/
  | lift (body : Grammar) (factory : Option Factory)
  /-- What `body` matches, as one node with the joined values. -/
  | join (joint : String) (body : Grammar) (factory : Option Factory)
  /-- What `body` matches, without consuming it. -/
  | preserve (body : Grammar) (factory : Option Factory)

end

/-- The grammars that references stand for.  The binding made last for a name counts. -/
abbrev Bindings := List (String × Grammar)

namespace Bindings

/-- The grammar bound to `name`. -/
def target? (bindings : Bindings) (name : String) : Option Grammar :=
  bindings.lookup name

/-- Whether `name` is bound. -/
def isBound (bindings : Bindings) (name : String) : Bool :=
  (bindings.target? name).isSome

/-- The bindings with `name` bound to `target`. -/
def bind (bindings : Bindings) (name : String) (target : Grammar) : Bindings :=
  (name, target) :: bindings

end Bindings
end Packrat
