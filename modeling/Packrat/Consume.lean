import Packrat.Grammar.Basic
import Packrat.Node.Builder
import Packrat.Node.Joined
import Packrat.Session
import Packrat.Window

/-! # Consuming text

A consumer reads from the front of a window, appends the nodes it produces to a builder, and answers
with the window that is left or with an error.  After an error the builder is as it was before.
`step` says what each consumer does in terms of how its parts consume, and `consume` ties the knot
with fuel for the depth of nesting: a grammar without left recursion never uses up enough of it.

The caching of an environment decides what a memoizing consumer does.  With it, the consumer looks
its result up in the memo table of the session and stores what it worked out; without, it works its
result out each time.  Either way the node it worked out gets the span that was consumed and is then
handed to the parent.
-/
namespace Packrat

/-- What a grammar is consumed in. -/
structure Environment where
  bindings : Bindings := []
  /-- Whether memoizing consumers look up and store their results. -/
  caching : Bool := true

/-- What a consumer leaves behind: the rest of the window or an error, and the builder. -/
structure Outcome where
  result : Except ParseError Window
  parent : NodeBuilder

/-- How grammars consume. -/
abbrev Run := Grammar → Window → NodeBuilder → Eval Outcome

namespace Outcome

/-- The outcome with its error changed by `f`. -/
def mapError (f : ParseError → ParseError) (o : Outcome) : Outcome :=
  { o with result := o.result.mapError f }

end Outcome

/-- Success with `rest` left over. -/
def succeed (rest : Window) (parent : NodeBuilder) : Eval Outcome :=
  pure ⟨.ok rest, parent⟩

/-- Failure with `error`. -/
def failWith (error : ParseError) (parent : NodeBuilder) : Eval Outcome :=
  pure ⟨.error error, parent⟩

/-- The frame of a sequence in the context of recoverable errors. -/
def ParseError.inSequence (e : ParseError) : ParseError :=
  if e.isRecoverable then e.withContext "Sequence failed" else e

namespace Production

/-- The builder with the attachment that a factory makes of the text matched between `input` and
`rest` and the children so far. -/
def attachMatched (factory : Option Factory) (input rest : Window) (me : NodeBuilder) :
    Eval NodeBuilder :=
  match factory with
  | none => pure me
  | some f => do
    let text ← Eval.check (input.slice input.start rest.start)
    let attachment ← Eval.check (f.create (some text) me.children.toList)
    pure (me.withAttachment attachment)

/-- Success of a production that matched up to `rest`. -/
def finish (factory : Option Factory) (input rest : Window) (me : NodeBuilder) : Eval Outcome := do
  succeed rest (← attachMatched factory input rest me)

variable (run : Run)

/-- Every part in order. -/
def produceParts (factory : Option Factory) (input : Window) :
    List Grammar → Window → NodeBuilder → Eval Outcome
  | [], cursor, me => finish factory input cursor me
  | part :: parts, cursor, me => do
    let o ← run part cursor me
    match o.result with
    | .ok rest => produceParts factory input parts rest o.parent
    | .error e => failWith e.inSequence o.parent

/-- The first branch that does not fail recoverably.  What a branch appended before it failed is
taken back. -/
def produceBranches (factory : Option Factory) (input : Window) :
    List Grammar → NodeBuilder → Eval Outcome
  | [], me => do
    Eval.emit (.noBranchMatched input.start)
    failWith (.noAlternative input.start none) me
  | branch :: branches, me => do
    let mark := me.children.size
    let o ← run branch input me
    match o.result with
    | .ok rest => finish factory input rest o.parent
    | .error e =>
      if e.isRecoverable then do
        Eval.emit (.branchFailed input.start e)
        produceBranches factory input branches (o.parent.truncate mark)
      else
        failWith e o.parent

/-- The end of a repetition after `count` matches. -/
def finishRepetition (min : Nat) (factory : Option Factory) (input cursor : Window) (count : Nat)
    (me : NodeBuilder) : Eval Outcome :=
  if count < min then
    failWith
      (.mismatch ("Out of bounds (" ++ toString count ++ " < " ++ toString min ++ ")") input.start
        none) me
  else
    finish factory input cursor me

/-- Matches of `body`, one after the other, until one fails recoverably or `left` have been made.
What the failing one appended is taken back.  Without an upper bound a match that consumes nothing
is the last one, and meets any minimum: it could be repeated for ever.  Without an upper bound
`left` only has to exceed the number of characters in view. -/
def produceMatches (min : Nat) (max : Option Nat) (body : Grammar) (factory : Option Factory)
    (input : Window) : Nat → Nat → Window → NodeBuilder → Eval Outcome
  | 0, count, cursor, me =>
    if max.isSome then finishRepetition min factory input cursor count me else throw .outOfFuel
  | left + 1, count, cursor, me => do
    let mark := me.children.size
    let o ← run body cursor me
    match o.result with
    | .ok rest => do
      let count ← Eval.check (addPosition count 1)
      if max.isNone && !(cursor.start < rest.start) then
        finishRepetition min factory input rest (Nat.max count min) o.parent
      else
        produceMatches min max body factory input left count rest o.parent
    | .error e =>
      if e.isRecoverable then do
        Eval.emit (.repetitionStopped cursor.start count e)
        finishRepetition min factory input cursor count (o.parent.truncate mark)
      else
        failWith e o.parent

/-- The builder with the attachment that a factory makes of `text` and `nodes`. -/
def attachJoined (factory : Option Factory) (text : String) (nodes : List Node)
    (me : NodeBuilder) : Eval NodeBuilder :=
  match factory with
  | none => pure me
  | some f => do
    let attachment ← Eval.check (f.create (some text) nodes)
    pure (me.withAttachment attachment)

/-- Producing: how a production works out its node from `input` in the builder `me`. -/
def produce : Production → Window → NodeBuilder → Eval Outcome
  | sequence parts factory, input, me => produceParts run factory input parts input me
  | choice branches factory, input, me => produceBranches run factory input branches me
  | repetition min max body factory, input, me =>
    produceMatches run min max body factory input (max.getD (input.length + 1)) 0 input me
  | lift body _, input, me => run body input me
  | join joint body factory, input, me => do
    let o ← run body input .empty
    match o.result with
    | .ok rest => do
      let nodes := o.parent.children.toList
      let text := Node.joinValues joint nodes
      let me ← attachJoined factory text nodes me
      succeed rest (me.withValue (some text))
    | .error e => failWith e me
  | preserve body factory, input, me => do
    let o ← run body input me
    match o.result with
    | .ok rest => succeed input (← attachMatched factory input rest o.parent)
    | .error e => failWith e o.parent

/-- The node with the attachment that a factory makes of its own value and children. -/
def reattach (factory : Factory) (node : Node) : Except Violation Node := do
  let attachment ← factory.create node.value node.children
  return { node with attachment }

/-- The children of the children of a node. -/
def grandchildren (node : Node) : List Node := node.children.flatMap (·.children)

/-- Applying: how a production hands its finished node to the parent. -/
def apply : Production → NodeBuilder → Node → Except Violation NodeBuilder
  | lift _ none, parent, me => .ok (parent.extend (grandchildren me))
  | lift _ (some factory), parent, me => do
    let nodes ← (grandchildren me).mapM (reattach factory)
    return parent.extend nodes
  | _, parent, me => .ok (parent.push me)

end Production

namespace Grammar

/-- A node for the text from `input` to `stop`, pushed to the parent. -/
def leaf (input : Window) (stop : Nat) (value : String) (factory : Option Factory)
    (parent : NodeBuilder) : Eval Outcome := do
  let rest ← Eval.check (input.advance stop)
  let attachment ← Eval.check (match factory with
    | some f => f.create (some value) []
    | none => .ok none)
  succeed rest (parent.push ⟨some ⟨input.start, stop⟩, some value, attachment, []⟩)

/-- The characters of a token. -/
def consumeExact (token : String) (factory : Option Factory) (input : Window)
    (parent : NodeBuilder) : Eval Outcome :=
  if input.startsWith token.toList then do
    let stop ← Eval.check (addPosition input.start token.length)
    leaf input stop token factory parent
  else
    failWith (.mismatch ("Token mismatch (" ++ token ++ ")") input.start none) parent

/-- As many characters of a class as there are. -/
def consumeCharRun (min : Nat) (max : Option Nat) (cls : CharClass) (factory : Option Factory)
    (input : Window) (parent : NodeBuilder) : Eval Outcome :=
  let count := input.runLength cls.contains (max.getD input.length)
  if count < min then
    failWith
      (.mismatch
        ("Match count out of bounds (" ++ toString count ++ " < " ++ toString min ++ ")")
        input.start none) parent
  else do
    let text ← Eval.check (input.text count)
    let stop ← Eval.check (addPosition input.start count)
    leaf input stop text factory parent

/-- The end of the window. -/
def consumeEnd (input : Window) (parent : NodeBuilder) : Eval Outcome :=
  if input.isEmpty then succeed input parent
  else failWith (.mismatch "End of input expected" input.start none) parent

/-- The text a translator is given for `node`: its value, or what was matched if it has none. -/
def translated (input rest : Window) (node : Node) : Eval String :=
  match node.value with
  | some value => pure value
  | none => Eval.check (input.slice input.start rest.start)

/-- The only node of what was matched between `input` and `rest`, with a translated value. -/
def consumeReplaced (translator : Translator) (input rest : Window) (nodes : List Node)
    (parent : NodeBuilder) : Eval Outcome :=
  match nodes with
  | [node] => do
    let text ← translated input rest node
    succeed rest (parent.push
      { node with
        span := some ⟨input.start, rest.start⟩
        value := some (translator text) })
  | _ =>
    failWith
      (.inconsistent
        ("replace expects exactly one node, got " ++ toString nodes.length) input.start) parent

variable (run : Run)

/-- A memoizing consumer that works its result out each time. -/
def consumePlain (production : Production) (input : Window) (parent : NodeBuilder) :
    Eval Outcome := do
  let o ← production.produce run input .empty
  match o.result with
  | .ok rest => do
    let me ← Eval.check (o.parent.withSpan input.start rest.start).build
    let parent ← Eval.check (production.apply parent me)
    succeed rest parent
  | .error e => failWith e parent

/-- A memoizing consumer that finds no entry: it works its result out and stores it.  An error that
is not recoverable is not stored. -/
def consumeMissed (production : Production) (key : MemoKey) (input : Window)
    (parent : NodeBuilder) : Eval Outcome := do
  Eval.emit (.produced key)
  let o ← production.produce run input .empty
  match o.result with
  | .ok rest => do
    let me ← Eval.check (o.parent.withSpan input.start rest.start).build
    match ← Eval.onMemo (·.keep Node.same key me) with
    | .ok me => do
      let parent ← Eval.check (production.apply parent me)
      succeed rest parent
    | .error e => failWith e parent
  | .error e =>
    if e.isRecoverable then do
      match ← Eval.onMemo (·.keepFailure key e) with
      | .ok () => failWith e parent
      | .error e => failWith e parent
    else
      failWith e parent

/-- A memoizing consumer that looks its result up.  A stored node is handed to the parent again, and
the rest of the window starts where the node ends. -/
def consumeCached (id : ConsumerId) (production : Production) (input : Window)
    (parent : NodeBuilder) : Eval Outcome := do
  let key : MemoKey := ⟨input.start, input.stop, id⟩
  Eval.emit (.requested key)
  match ← Eval.onMemo (·.ask key) with
  | .ok (some me) => do
    let parent ← Eval.check (production.apply parent me)
    let rest ← Eval.check (input.advance ((me.span.map (·.stop)).getD input.start))
    succeed rest parent
  | .ok none => consumeMissed run production key input parent
  | .error e => failWith e parent

/-- What a consumer does, in terms of how its parts consume. -/
def consumeBy (env : Environment) : Grammar → Window → NodeBuilder → Eval Outcome
  | exact token factory, input, parent => consumeExact token factory input parent
  | charRun min max cls factory, input, parent => consumeCharRun min max cls factory input parent
  | endOfInput, input, parent => consumeEnd input parent
  | skip body, input, parent => do
    let o ← run body input .empty
    pure ⟨o.result, parent⟩
  | require body, input, parent => do
    let o ← run body input parent
    pure (o.mapError ParseError.escalate)
  | group name body, input, parent => do
    let o ← run body input parent
    pure (o.mapError (ParseError.withContext name))
  | replace translator body, input, parent => do
    let o ← run body input .empty
    match o.result with
    | .ok rest => consumeReplaced translator input rest o.parent.children.toList parent
    | .error e => failWith e parent
  | reference name, input, parent =>
    match env.bindings.target? name with
    | some target => run target input parent
    | none =>
      failWith (.inconsistent "reference consumed before its target was set" input.start) parent
  | memoized id production, input, parent =>
    if env.caching then consumeCached run id production input parent
    else consumePlain run production input parent
  | counted name body, input, parent => do
    modify fun s => { s with counts := s.counts.increment name }
    run body input parent
  | windowed size body, input, parent => do
    let inner ← Eval.check (input.narrow input.start (input.start + min size input.length))
    let o ← run body inner parent
    match o.result with
    | .ok rest => do
      let rest ← Eval.check (input.advance rest.start)
      succeed rest o.parent
    | .error e => failWith e o.parent
  | once flag first later, input, parent => do
    if (← get).spent.contains flag then
      run later input parent
    else do
      modify fun s => { s with spent := flag :: s.spent }
      run first input parent
  | fail error, _, parent => failWith error parent

/-- The nodes that a consumer leaves behind when it matches at `input`. -/
def yield (input : Window) : Grammar → Yield
  | exact .. => .leaf
  | charRun .. => .leaf
  | replace .. => .rewritten
  | endOfInput => .nothing
  | skip _ => .nothing
  | memoized id production =>
    let key : MemoKey := ⟨input.start, input.stop, id⟩
    match production with
    | .join .. => .joined key
    | .lift _ none => .lifted key
    | .lift _ (some _) => .reattached key
    | _ => .stored key
  | _ => .parts

/-- The end of a consumer, as the log shows it. -/
def ending (g : Grammar) (input : Window) : Except ParseError Window → ParseEvent
  | .ok _ => .ended (g.yield input)
  | .error e => if e.isRecoverable then .ended .nothing else .raised e

/-- One step: what a consumer does, with its start and its end written into the log. -/
def step (env : Environment) : Run := fun g input parent => do
  Eval.emit .started
  let o ← consumeBy run env g input parent
  Eval.emit (g.ending input o.result)
  pure o

/-- Consuming: what a grammar does with a window.  A nesting deeper than `fuel` is given up. -/
def consume (env : Environment) : Nat → Run
  | 0 => fun _ _ _ => throw .outOfFuel
  | fuel + 1 => step (consume env fuel) env

end Grammar
end Packrat
