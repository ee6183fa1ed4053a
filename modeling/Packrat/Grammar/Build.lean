import Packrat.Grammar.Parts
import Packrat.Violation

/-! # Building grammars

Every memoizing consumer gets an identity of its own when it is built, also inside the grammars that
are derived from others here.  Building therefore draws from a supply of identities; it fails only
where a choice is asked for without a branch.

Names that start with `lifted` put their result in the place of the node around it.
-/
namespace Packrat

/-- What the next consumers to be built will be known by.  Identities are 32 bits wide. -/
structure Supply where
  nextConsumer : UInt32 := 1
  nextFlag : Nat := 0

/-- A building that draws from a supply. -/
abbrev Build (α : Type) := ExceptT Violation (StateM Supply) α

/-- The second building draws from what the first one leaves, and is not begun if the first one
fails. -/
theorem Build.run_bind {α β : Type} (x : Build α) (f : α → Build β) (supply : Supply) :
    (x >>= f).run.run supply =
      match x.run.run supply with
      | (.ok a, supply) => (f a).run.run supply
      | (.error v, supply) => (.error v, supply) := by
  show ExceptT.bind x f supply = _
  simp only [ExceptT.bind, ExceptT.mk, bind, StateT.bind, ExceptT.run, StateT.run]
  rcases x supply with ⟨_ | _, _⟩ <;> rfl

/-- A fresh identity. -/
def ConsumerId.fresh : Build ConsumerId :=
  modifyGet fun s => (⟨s.nextConsumer⟩, { s with nextConsumer := s.nextConsumer + 1 })

/-- The production with another factory in place of its own. -/
def Production.withFactory (factory : Factory) : Production → Production
  | sequence parts _ => sequence parts (some factory)
  | choice branches _ => choice branches (some factory)
  | repetition min max body _ => repetition min max body (some factory)
  | lift body _ => lift body (some factory)
  | join joint body _ => join joint body (some factory)
  | preserve body _ => preserve body (some factory)

@[simp] theorem Production.parts_withFactory (factory : Factory) (production : Production) :
    (production.withFactory factory).parts = production.parts := by
  cases production <;> rfl

namespace Grammar

/-- Whether the grammar produces a node of its own, and so can carry an attachment. -/
def isParser : Grammar → Bool
  | exact .. => true
  | charRun .. => true
  | memoized .. => true
  | _ => false

/-- A memoizing consumer with a fresh identity. -/
def memoize (production : Production) : Build Grammar := do
  let id ← ConsumerId.fresh
  pure (memoized id production)

/-- The grammar with another factory, which gets an identity of its own.  A grammar without a node
of its own has no such form. -/
def attach? (factory : Factory) : Grammar → Build (Option Grammar)
  | exact token _ => pure (some (exact token (some factory)))
  | charRun min max cls _ => pure (some (charRun min max cls (some factory)))
  | memoized _ production => do
    let g ← memoize (production.withFactory factory)
    pure (some g)
  | _ => pure none

/-- Every part in order, under one node. -/
def sequence (parts : List Grammar) : Build Grammar :=
  memoize (.sequence parts none)

/-- The first branch that matches, under a node.  There must be a branch. -/
def choice (branches : List Grammar) : Build Grammar :=
  if branches.isEmpty then throw .noBranches else memoize (.choice branches none)

/-- Between `min` and `max` matches of `body`, under one node. -/
def repetition (min : Nat) (max : Option Nat) (body : Grammar) : Build Grammar :=
  memoize (.repetition min max body none)

/-- What `body` matches, with the children of its nodes in the place of the nodes. -/
def lifted (body : Grammar) : Build Grammar :=
  memoize (.lift body none)

/-- What `body` matches, as one node that holds the values with `joint` between them. -/
def joinedWith (joint : String) (body : Grammar) : Build Grammar :=
  memoize (.join joint body none)

/-- What `body` matches, as one node that holds the values one after the other. -/
def joined (body : Grammar) : Build Grammar :=
  joinedWith "" body

/-- What `body` matches, without consuming it. -/
def preserved (body : Grammar) : Build Grammar :=
  memoize (.preserve body none)

/-- The parts in order, under the node around them. -/
def liftedSequence (parts : List Grammar) : Build Grammar := do
  lifted (← sequence parts)

/-- The first branch that matches, under the node around it. -/
def liftedChoice (branches : List Grammar) : Build Grammar := do
  lifted (← choice branches)

/-- Between `min` and `max` matches of `body`, under the node around them. -/
def liftedRepetition (min : Nat) (max : Option Nat) (body : Grammar) : Build Grammar := do
  lifted (← repetition min max body)

/-- One match of `body` or none, under a node. -/
def optional (body : Grammar) : Build Grammar :=
  repetition 0 (some 1) body

/-- One match of `body` or none, under the node around it. -/
def liftedOptional (body : Grammar) : Build Grammar := do
  lifted (← optional body)

/-- The first of `tokens` that matches. -/
def oneOf (tokens : List String) : Build Grammar :=
  liftedChoice (tokens.map fun token => exact token none)

/-- Lookahead: succeeds where `body` does, and neither consumes nor produces anything. -/
def peek (body : Grammar) : Build Grammar := do
  pure (skip (← preserved body))

/-- The characters of `token`, without a node. -/
def skipToken (token : String) : Grammar :=
  skip (exact token none)

/-- At least one character of a class, without a node. -/
def skipClass (cls : CharClass) : Grammar :=
  skip (charRun 1 none cls none)

/-- Any number of characters of a class, without a node. -/
def ignore (cls : CharClass) : Grammar :=
  skip (charRun 0 none cls none)

/-- What `body` matches between characters of a class, as many as there are. -/
def stripWith (body : Grammar) (cls : CharClass) : Build Grammar :=
  liftedSequence [ignore cls, body, ignore cls]

/-- What `body` matches between blanks on its line. -/
def strip (body : Grammar) : Build Grammar :=
  stripWith body .white

/-- What `body` matches, up to the end of the text. -/
def terminal (body : Grammar) : Build Grammar :=
  liftedSequence [body, endOfInput]

/-- What `item` matches between two tokens. -/
def between (left : String) (item : Grammar) (right : String) : Build Grammar :=
  sequence [skipToken left, item, skipToken right]

/-- What `item` matches between two tokens, with the children of its nodes in their place. -/
def liftedBetween (left : String) (item : Grammar) (right : String) : Build Grammar := do
  sequence [skipToken left, ← lifted item, skipToken right]

/-- At least `min` matches of `item` with matches of `delimiter` between them. -/
def delimited (min : Nat) (item delimiter : Grammar) : Build Grammar := do
  let tail ← liftedSequence [delimiter, item]
  match min with
  | 0 => sequence [← liftedOptional (← liftedSequence [item, ← liftedRepetition 0 none tail])]
  | min + 1 => sequence [item, ← liftedRepetition min none tail]

/-- At least `min` matches of `item` with a token between them. -/
def delimitedBy (min : Nat) (item : Grammar) (token : String) : Build Grammar :=
  delimited min item (skipToken token)

/-- What `first` matches on the very first call, and `later` afterwards. -/
def firstThen (first later : Grammar) : Build Grammar := do
  let flag ← modifyGet fun (s : Supply) => (s.nextFlag, { s with nextFlag := s.nextFlag + 1 })
  pure (once flag first later)

end Grammar
end Packrat
