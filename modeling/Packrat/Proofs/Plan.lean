import Packrat.Consume

/-! # What a grammar asks

`Grammar.step` says what a consumer does in terms of how its parts consume.  This module says the
same without a session, a builder and fuel.  A **plan** either is done, or asks how another grammar
consumes a window and goes on with the reply; `Grammar.plan` is the plan of a grammar for a window.
A reply is an error, or the window that is left together with the nodes that were made.

`Settles` is the plain meaning of a plan: each question is answered by the plan of the grammar that
it asks about.  There is no memo table in it.  A plan settles in one way at most
(`Settles.unique`), and a plan that settles asks no question that leads back to itself
(`Settles.acc`).  What all consumers do therefore needs only be proved of the replies within one
plan (`Plan.Meets`, `Settles.meets`).
-/
namespace Packrat

/-- What became of consuming a window: an error, or the window left and the nodes made. -/
abbrev Reply := Except ParseError (Window × List Node)

/-- The outcome of a reply for a consumer that was given `parent`. -/
def Reply.outcome (parent : NodeBuilder) : Reply → Outcome
  | .ok (rest, nodes) => ⟨.ok rest, parent.extend nodes⟩
  | .error e => ⟨.error e, parent⟩

/-- A computation that may ask how grammars consume windows. -/
inductive Plan (α : Type) where
  | done (result : Except Halt α)
  | ask (g : Grammar) (w : Window) (next : Reply → Plan α)

namespace Plan

variable {α β : Type}

/-- The plan that is done with `a`. -/
def answer (a : α) : Plan α := done (.ok a)

/-- The plan that is done with a checked result. -/
def check (x : Except Violation α) : Plan α := done (x.mapError .violation)

/-- The plan that goes on with `f` once the first one is done, unless that halts. -/
def andThen : Plan α → (α → Plan β) → Plan β
  | done (.ok a), f => f a
  | done (.error h), _ => done (.error h)
  | ask g w next, f => ask g w fun reply => (next reply).andThen f

end Plan

/-- The attachment that a factory makes of `text` and `nodes`, if there is a factory. -/
def Factory.createWith (factory : Option Factory) (text : String) (nodes : List Node) :
    Except Violation (Option Attachment) :=
  match factory with
  | none => .ok none
  | some f => f.create (some text) nodes

namespace Production

/-- The attachment that a factory makes of the text between `input` and `rest` and of `nodes`. -/
def attachmentFor (factory : Option Factory) (input rest : Window) (nodes : List Node) :
    Except Violation (Option Attachment) :=
  match factory with
  | none => .ok none
  | some f => do f.create (some (← input.slice input.start rest.start)) nodes

/-- The node of a production that matched up to `rest`, with `nodes` as its children. -/
def planFinish (factory : Option Factory) (input rest : Window) (nodes : List Node) :
    Plan (Except ParseError (Window × Node)) :=
  .check do
    let attachment ← attachmentFor factory input rest nodes
    return .ok (rest, ⟨some ⟨input.start, rest.start⟩, none, attachment, nodes⟩)

/-- Every part in order, behind the `nodes` made so far. -/
def planParts (factory : Option Factory) (input : Window) :
    List Grammar → Window → List Node → Plan (Except ParseError (Window × Node))
  | [], cursor, nodes => planFinish factory input cursor nodes
  | part :: parts, cursor, nodes => .ask part cursor fun
    | .ok (rest, more) => planParts factory input parts rest (nodes ++ more)
    | .error e => .answer (.error e.inSequence)

/-- The first branch that does not fail recoverably. -/
def planBranches (factory : Option Factory) (input : Window) :
    List Grammar → Plan (Except ParseError (Window × Node))
  | [] => .answer (.error (.noAlternative input.start none))
  | branch :: branches => .ask branch input fun
    | .ok (rest, nodes) => planFinish factory input rest nodes
    | .error e =>
      if e.isRecoverable then planBranches factory input branches else .answer (.error e)

/-- The end of a repetition after `count` matches, which made `nodes`. -/
def planFinishRepetition (min : Nat) (factory : Option Factory) (input cursor : Window)
    (count : Nat) (nodes : List Node) : Plan (Except ParseError (Window × Node)) :=
  if count < min then
    .answer (.error
      (.mismatch ("Out of bounds (" ++ toString count ++ " < " ++ toString min ++ ")") input.start
        none))
  else
    planFinish factory input cursor nodes

/-- At most `left` further matches of `body`, behind the `count` made so far. -/
def planMatches (min : Nat) (max : Option Nat) (body : Grammar) (factory : Option Factory)
    (input : Window) :
    Nat → Nat → Window → List Node → Plan (Except ParseError (Window × Node))
  | 0, count, cursor, nodes =>
    if max.isSome then planFinishRepetition min factory input cursor count nodes
    else .done (.error .outOfFuel)
  | left + 1, count, cursor, nodes => .ask body cursor fun
    | .ok (rest, more) => (Plan.check (addPosition count 1)).andThen fun count =>
      if max.isNone && !(cursor.start < rest.start) then
        planFinishRepetition min factory input rest (Nat.max count min) (nodes ++ more)
      else
        planMatches min max body factory input left count rest (nodes ++ more)
    | .error e =>
      if e.isRecoverable then planFinishRepetition min factory input cursor count nodes
      else .answer (.error e)

/-- The node of a join of `nodes`, which were matched up to `rest`. -/
def planJoined (joint : String) (factory : Option Factory) (input rest : Window)
    (nodes : List Node) : Plan (Except ParseError (Window × Node)) :=
  let text := Node.joinValues joint nodes
  .check do
    let attachment ← Factory.createWith factory text nodes
    return .ok (rest, ⟨some ⟨input.start, rest.start⟩, some text, attachment, []⟩)

/-- The node of a lookahead over `nodes`, which were matched up to `rest` and stay unconsumed. -/
def planPreserved (factory : Option Factory) (input rest : Window) (nodes : List Node) :
    Plan (Except ParseError (Window × Node)) :=
  .check do
    let attachment ← attachmentFor factory input rest nodes
    return .ok (input, ⟨some ⟨input.start, input.start⟩, none, attachment, nodes⟩)

/-- How a production works out its node. -/
def plan : Production → Window → Plan (Except ParseError (Window × Node))
  | sequence parts factory, input => planParts factory input parts input []
  | choice branches factory, input => planBranches factory input branches
  | repetition min max body factory, input =>
    planMatches min max body factory input (max.getD (input.length + 1)) 0 input []
  | lift body _, input => .ask body input fun
    | .ok (rest, nodes) => planFinish none input rest nodes
    | .error e => .answer (.error e)
  | join joint body factory, input => .ask body input fun
    | .ok (rest, nodes) => planJoined joint factory input rest nodes
    | .error e => .answer (.error e)
  | preserve body factory, input => .ask body input fun
    | .ok (rest, nodes) => planPreserved factory input rest nodes
    | .error e => .answer (.error e)

/-- The nodes that a production hands to the parent for its finished node. -/
def handed : Production → Node → Except Violation (List Node)
  | lift _ none, me => .ok (grandchildren me)
  | lift _ (some factory), me => (grandchildren me).mapM (reattach factory)
  | _, me => .ok [me]

/-- The end of a memoizing consumer whose production has worked out its node. -/
def planApplied (production : Production) : Except ParseError (Window × Node) → Plan Reply
  | .ok (rest, me) => .check ((production.handed me).map fun nodes => .ok (rest, nodes))
  | .error e => .answer (.error e)

end Production

namespace Grammar

/-- A node for the text from `input` to `stop`. -/
def leafReply (input : Window) (stop : Nat) (value : String) (factory : Option Factory) :
    Except Violation Reply := do
  let rest ← input.advance stop
  let attachment ← Factory.createWith factory value []
  return .ok (rest, [⟨some ⟨input.start, stop⟩, some value, attachment, []⟩])

/-- The reply for the characters of a token. -/
def exactReply (token : String) (factory : Option Factory) (input : Window) :
    Except Violation Reply :=
  if input.startsWith token.toList then do
    leafReply input (← addPosition input.start token.length) token factory
  else
    .ok (.error (.mismatch ("Token mismatch (" ++ token ++ ")") input.start none))

/-- The reply for the characters of a class. -/
def charRunReply (min : Nat) (max : Option Nat) (cls : CharClass) (factory : Option Factory)
    (input : Window) : Except Violation Reply :=
  let count := input.runLength cls.contains (max.getD input.length)
  if count < min then
    .ok (.error
      (.mismatch
        ("Match count out of bounds (" ++ toString count ++ " < " ++ toString min ++ ")")
        input.start none))
  else do
    let text ← input.text count
    leafReply input (← addPosition input.start count) text factory

/-- The reply for the end of the window. -/
def endReply (input : Window) : Reply :=
  if input.isEmpty then .ok (input, [])
  else .error (.mismatch "End of input expected" input.start none)

/-- The reply for the only one of `nodes`, with a translated value. -/
def replacedReply (translator : Translator) (input rest : Window) :
    List Node → Except Violation Reply
  | [node] => do
    let text ← match node.value with
      | some value => .ok value
      | none => input.slice input.start rest.start
    return .ok (rest,
      [{ node with
          span := some ⟨input.start, rest.start⟩
          value := some (translator text) }])
  | nodes => .ok (.error
      (.inconsistent
        ("replace expects exactly one node, got " ++ toString nodes.length) input.start))

/-- How a grammar consumes a window.  The two kinds of consumers that a session can change have no
plan of their own. -/
def plan (bindings : Bindings) : Grammar → Window → Plan Reply
  | exact token factory, input => .check (exactReply token factory input)
  | charRun min max cls factory, input => .check (charRunReply min max cls factory input)
  | endOfInput, input => .answer (endReply input)
  | skip body, input => .ask body input fun reply => .answer (reply.map fun (rest, _) => (rest, []))
  | require body, input => .ask body input fun reply => .answer (reply.mapError .escalate)
  | group name body, input =>
    .ask body input fun reply => .answer (reply.mapError (.withContext name))
  | replace translator body, input => .ask body input fun
    | .ok (rest, nodes) => .check (replacedReply translator input rest nodes)
    | .error e => .answer (.error e)
  | reference name, input =>
    match bindings.target? name with
    | some target => .ask target input .answer
    | none =>
      .answer (.error
        (.inconsistent "reference consumed before its target was set" input.start))
  | memoized _ production, input => (production.plan input).andThen production.planApplied
  | windowed size body, input =>
    (Plan.check (input.narrow input.start (input.start + min size input.length))).andThen
      fun inner => .ask body inner fun
        | .ok (rest, nodes) =>
          .check ((input.advance rest.start).map fun rest => .ok (rest, nodes))
        | .error e => .answer (.error e)
  | fail error, _ => .answer (.error error)
  | counted .., _ => .done (.error .outOfFuel)
  | once .., _ => .done (.error .outOfFuel)

end Grammar

/-! ## The meaning of a plan -/

/-- **The plain meaning of a plan**: what it is done with when each of its questions is answered by
the plan of the grammar it asks about. -/
inductive Settles (bindings : Bindings) : {α : Type} → Plan α → Except Halt α → Prop
  | done {α : Type} {r : Except Halt α} : Settles bindings (.done r) r
  | ask {α : Type} {g : Grammar} {w : Window} {next : Reply → Plan α} {reply : Reply}
      {r : Except Halt α} :
      Settles bindings (g.plan bindings w) (.ok reply) → Settles bindings (next reply) r →
      Settles bindings (.ask g w next) r
  | halt {α : Type} {g : Grammar} {w : Window} {next : Reply → Plan α} {h : Halt} :
      Settles bindings (g.plan bindings w) (.error h) → Settles bindings (.ask g w next) (.error h)

namespace Plan

variable {α β : Type} {bindings : Bindings}

@[simp] theorem done_ok_andThen (a : α) (f : α → Plan β) : (done (.ok a)).andThen f = f a := rfl

@[simp] theorem done_error_andThen (h : Halt) (f : α → Plan β) :
    (done (.error h) : Plan α).andThen f = done (.error h) := rfl

@[simp] theorem answer_andThen (a : α) (f : α → Plan β) : (answer a).andThen f = f a := rfl

@[simp] theorem ask_andThen (g : Grammar) (w : Window) (next : Reply → Plan α)
    (f : α → Plan β) : (ask g w next).andThen f = ask g w fun reply => (next reply).andThen f := rfl

@[simp] theorem check_ok (a : α) : check (.ok a) = answer a := rfl

@[simp] theorem check_error (v : Violation) :
    (check (.error v) : Plan α) = done (.error (.violation v)) := rfl

end Plan

section Settling

variable {α β : Type} {bindings : Bindings}

@[simp] theorem settles_done {r r' : Except Halt α} :
    Settles bindings (.done r) r' ↔ r' = r := by
  constructor
  · intro h
    cases h
    rfl
  · rintro rfl
    exact .done

@[simp] theorem settles_answer {a : α} {r : Except Halt α} :
    Settles bindings (.answer a) r ↔ r = .ok a :=
  settles_done

@[simp] theorem settles_check {x : Except Violation α} {r : Except Halt α} :
    Settles bindings (.check x) r ↔ r = x.mapError .violation :=
  settles_done

/-- A question is answered, or the plan halts where its question does. -/
theorem settles_ask {g : Grammar} {w : Window} {next : Reply → Plan α} {r : Except Halt α} :
    Settles bindings (.ask g w next) r ↔
      (∃ reply, Settles bindings (g.plan bindings w) (.ok reply) ∧
        Settles bindings (next reply) r) ∨
      ∃ h, Settles bindings (g.plan bindings w) (.error h) ∧ r = .error h := by
  constructor
  · intro hs
    cases hs with
    | ask hg hn => exact .inl ⟨_, hg, hn⟩
    | halt hg => exact .inr ⟨_, hg, rfl⟩
  · rintro (⟨reply, hg, hn⟩ | ⟨h, hg, rfl⟩)
    · exact .ask hg hn
    · exact .halt hg

theorem Settles.andThen {p : Plan α} {a : α} {f : α → Plan β} {r : Except Halt β}
    (hp : Settles bindings p (.ok a)) (hf : Settles bindings (f a) r) :
    Settles bindings (p.andThen f) r := by
  induction p with
  | done x =>
    obtain rfl := settles_done.mp hp
    exact hf
  | ask g w next ih =>
    obtain ⟨reply, hg, hn⟩ | ⟨h, -, hr⟩ := settles_ask.mp hp
    · exact .ask hg (ih reply hn)
    · cases hr

theorem Settles.andThen_halt {p : Plan α} {h : Halt} (hp : Settles bindings p (.error h))
    (f : α → Plan β) : Settles bindings (p.andThen f) (.error h) := by
  induction p with
  | done x =>
    obtain rfl := settles_done.mp hp
    exact .done
  | ask g w next ih =>
    obtain ⟨reply, hg, hn⟩ | ⟨h', hg, hr⟩ := settles_ask.mp hp
    · exact .ask hg (ih reply hn)
    · cases hr
      exact .halt hg

theorem settles_andThen {p : Plan α} {f : α → Plan β} {r : Except Halt β} :
    Settles bindings (p.andThen f) r ↔
      (∃ a, Settles bindings p (.ok a) ∧ Settles bindings (f a) r) ∨
      ∃ h, Settles bindings p (.error h) ∧ r = .error h := by
  constructor
  · intro hs
    induction p with
    | done x =>
      cases x with
      | ok a => exact .inl ⟨a, .done, hs⟩
      | error h => exact .inr ⟨h, .done, settles_done.mp hs⟩
    | ask g w next ih =>
      obtain ⟨reply, hg, hn⟩ | ⟨h, hg, hr⟩ := settles_ask.mp hs
      · obtain ⟨a, ha, hf⟩ | ⟨h, hh, hr⟩ := ih reply hn
        · exact .inl ⟨a, .ask hg ha, hf⟩
        · exact .inr ⟨h, .ask hg hh, hr⟩
      · exact .inr ⟨h, .halt hg, hr⟩
  · rintro (⟨a, hp, hf⟩ | ⟨h, hp, rfl⟩)
    · exact hp.andThen hf
    · exact hp.andThen_halt f

/-- **A plan settles in one way at most.** -/
theorem Settles.unique {p : Plan α} {r r' : Except Halt α} (h : Settles bindings p r)
    (h' : Settles bindings p r') : r = r' := by
  induction h with
  | done => exact (settles_done.mp h').symm
  | ask _ _ ihg ihn =>
    obtain ⟨reply, hg, hn⟩ | ⟨h, hg, -⟩ := settles_ask.mp h'
    · obtain rfl := Except.ok.inj (ihg hg)
      exact ihn hn
    · cases ihg hg
  | halt _ ihg =>
    obtain ⟨reply, hg, -⟩ | ⟨h, hg, rfl⟩ := settles_ask.mp h'
    · cases ihg hg
    · obtain rfl := Except.error.inj (ihg hg)
      rfl

end Settling

/-! ## The questions of a plan -/

/-- `Asks bindings p g w`: with all questions before it answered, the plan `p` asks how `g` consumes
`w`. -/
inductive Asks (bindings : Bindings) : {α : Type} → Plan α → Grammar → Window → Prop
  | here {α : Type} {g : Grammar} {w : Window} {next : Reply → Plan α} :
      Asks bindings (.ask g w next) g w
  | later {α : Type} {g h : Grammar} {w w' : Window} {next : Reply → Plan α} {reply : Reply} :
      Settles bindings (g.plan bindings w) (.ok reply) → Asks bindings (next reply) h w' →
      Asks bindings (.ask g w next) h w'

/-- Consuming the window of `x` by its grammar asks for what `y` stands for. -/
def Calls (bindings : Bindings) (x y : Grammar × Window) : Prop :=
  Asks bindings (x.1.plan bindings x.2) y.1 y.2

section Questions

variable {α β : Type} {bindings : Bindings}

theorem not_asks_done {r : Except Halt α} {g : Grammar} {w : Window} :
    ¬ Asks bindings (.done r) g w :=
  nofun

theorem asks_ask {g h : Grammar} {w w' : Window} {next : Reply → Plan α} :
    Asks bindings (.ask g w next) h w' ↔
      (h = g ∧ w' = w) ∨
      ∃ reply, Settles bindings (g.plan bindings w) (.ok reply) ∧
        Asks bindings (next reply) h w' := by
  constructor
  · intro ha
    cases ha with
    | here => exact .inl ⟨rfl, rfl⟩
    | later hg hn => exact .inr ⟨_, hg, hn⟩
  · rintro (⟨rfl, rfl⟩ | ⟨reply, hg, hn⟩)
    · exact .here
    · exact .later hg hn

theorem Asks.andThen {p : Plan α} {g : Grammar} {w : Window} (h : Asks bindings p g w)
    (f : α → Plan β) : Asks bindings (p.andThen f) g w := by
  induction h with
  | here => exact .here
  | later hg _ ih => exact .later hg ih

/-- **A plan that settles never leads back to one of its questions.** -/
theorem Settles.acc {g : Grammar} {w : Window} {r : Except Halt Reply}
    (h : Settles bindings (g.plan bindings w) r) :
    Acc (fun y x => Calls bindings x y) (g, w) := by
  suffices key : ∀ {α : Type} {p : Plan α} {r : Except Halt α}, Settles bindings p r →
      ∀ y : Grammar × Window, Asks bindings p y.1 y.2 → Acc (fun y x => Calls bindings x y) y from
    ⟨_, fun y hy => key h y hy⟩
  -- By induction on how a plan settles: each of its questions is accessible.
  intro α p r h
  induction h with
  | done =>
    intro y hy
    exact absurd hy not_asks_done
  | ask hg _ ihg ihn =>
    intro y hy
    obtain ⟨h₁, h₂⟩ | ⟨reply, hg', hn⟩ := asks_ask.mp hy
    · exact ⟨_, fun z hz => ihg z (by rwa [Calls, h₁, h₂] at hz)⟩
    · -- The question comes up behind the reply that the plan settles with; there is no other.
      obtain rfl := Except.ok.inj (hg.unique hg')
      exact ihn y hn
  | halt hg ihg =>
    intro y hy
    obtain ⟨h₁, h₂⟩ | ⟨reply, hg', -⟩ := asks_ask.mp hy
    · exact ⟨_, fun z hz => ihg z (by rwa [Calls, h₁, h₂] at hz)⟩
    · cases hg.unique hg'

end Questions

/-! ## What holds of every reply -/

/-- `post` holds of a result, if there is one. -/
def Allows {α : Type} (post : α → Prop) : Except Halt α → Prop
  | .ok a => post a
  | .error _ => True

/-- `post` holds of the result, or the computation has halted as `allowed` says. -/
def Guards {α : Type} (allowed : Halt → Prop) (post : α → Prop) : Except Halt α → Prop
  | .ok a => post a
  | .error h => allowed h

/-- The plan asks only what `pre` allows, and it is done with what `goal` says, as long as the
replies satisfy `post`. -/
def Plan.Meets {α : Type} (pre : Grammar → Window → Prop) (post : Grammar → Window → Reply → Prop)
    (goal : Except Halt α → Prop) : Plan α → Prop
  | done r => goal r
  | ask g w next => pre g w ∧ ∀ reply, post g w reply → (next reply).Meets pre post goal

section Meeting

variable {α β : Type} {bindings : Bindings} {pre : Grammar → Window → Prop}
  {post : Grammar → Window → Reply → Prop}

@[simp] theorem allows_ok {p : α → Prop} {a : α} : Allows p (.ok a) ↔ p a := .rfl

@[simp] theorem allows_error {p : α → Prop} {h : Halt} : Allows p (.error h) := trivial

theorem allows_mapError {p : α → Prop} {x : Except Violation α} :
    Allows p (x.mapError .violation) ↔ ∀ a, x = .ok a → p a := by
  cases x <;> simp

@[simp] theorem guards_ok {allowed : Halt → Prop} {p : α → Prop} {a : α} :
    Guards allowed p (.ok a) ↔ p a := .rfl

@[simp] theorem guards_error {allowed : Halt → Prop} {p : α → Prop} {h : Halt} :
    Guards allowed p (.error h) ↔ allowed h := .rfl

@[simp] theorem Plan.meets_done {r : Except Halt α} {goal : Except Halt α → Prop} :
    (Plan.done r).Meets pre post goal ↔ goal r := .rfl

@[simp] theorem Plan.meets_answer {a : α} {goal : Except Halt α → Prop} :
    (Plan.answer a).Meets pre post goal ↔ goal (.ok a) := .rfl

@[simp] theorem Plan.meets_check {x : Except Violation α} {goal : Except Halt α → Prop} :
    (Plan.check x).Meets pre post goal ↔ goal (x.mapError .violation) := .rfl

@[simp] theorem Plan.meets_ask {g : Grammar} {w : Window} {next : Reply → Plan α}
    {goal : Except Halt α → Prop} :
    (Plan.ask g w next).Meets pre post goal ↔
      pre g w ∧ ∀ reply, post g w reply → (next reply).Meets pre post goal := .rfl

theorem Plan.Meets.andThen {p : Plan α} {f : α → Plan β} {mid : Except Halt α → Prop}
    {goal : Except Halt β → Prop} (hp : p.Meets pre post mid)
    (hf : ∀ a, mid (.ok a) → (f a).Meets pre post goal)
    (hh : ∀ h, mid (.error h) → goal (.error h)) : (p.andThen f).Meets pre post goal := by
  induction p with
  | done x =>
    cases x with
    | ok a => exact hf a hp
    | error h => exact hh h hp
  | ask g w next ih => exact ⟨hp.1, fun reply hr => ih reply (hp.2 reply hr)⟩

theorem Plan.Meets.mono {p : Plan α} {pre' : Grammar → Window → Prop}
    {post' : Grammar → Window → Reply → Prop} {goal goal' : Except Halt α → Prop}
    (hp : p.Meets pre post goal) (hpre : ∀ g w, pre g w → pre' g w)
    (hpost : ∀ g w reply, pre g w → post' g w reply → post g w reply)
    (hgoal : ∀ r, goal r → goal' r) : p.Meets pre' post' goal' := by
  induction p with
  | done x => exact hgoal x hp
  | ask g w next ih =>
    exact ⟨hpre g w hp.1, fun reply hr => ih reply (hp.2 reply (hpost g w reply hp.1 hr))⟩

/-- **What every plan passes on holds of all replies.**  Let the plan of each grammar that `pre`
allows ask only what `pre` allows, turn replies that satisfy `post` into one that does, and halt
only as `allowed` says.  Then a plan that meets a goal settles as the goal says. -/
theorem Settles.guards {allowed : Halt → Prop}
    (hplan : ∀ (g : Grammar) w, pre g w →
      (g.plan bindings w).Meets pre post (Guards allowed (post g w)))
    {p : Plan α} {r : Except Halt α} (hs : Settles bindings p r)
    {goal : Except Halt α → Prop} (hp : p.Meets pre post goal)
    (hhalt : ∀ h, allowed h → goal (.error h)) : goal r := by
  induction hs with
  | done => exact hp
  | ask _ _ ihg ihn =>
    have hreply := ihg (hplan _ _ hp.1) fun _ hh => hh
    exact ihn (hp.2 _ hreply) hhalt
  | halt _ ihg =>
    have hallowed := ihg (hplan _ _ hp.1) fun _ hh => hh
    exact hhalt _ hallowed

/-- The same where it does not matter how plans halt. -/
theorem Settles.meets
    (hplan : ∀ (g : Grammar) w, pre g w → (g.plan bindings w).Meets pre post (Allows (post g w)))
    {p : Plan α} {r : Except Halt α} (hs : Settles bindings p r)
    {goal : Except Halt α → Prop} (hp : p.Meets pre post goal)
    (hhalt : ∀ h, goal (.error h)) : goal r := by
  have hguards : ∀ (g : Grammar) w, pre g w →
      (g.plan bindings w).Meets pre post (Guards (fun _ => True) (post g w)) := by
    intro g w hg
    refine (hplan g w hg).mono (fun _ _ h => h) (fun _ _ _ _ h => h) fun r hr => ?_
    cases r with
    | ok reply => exact hr
    | error h => trivial
  exact hs.guards hguards hp fun h _ => hhalt h

/-- A plan asks only what is allowed. -/
theorem Asks.allowed
    (hplan : ∀ (g : Grammar) w, pre g w → (g.plan bindings w).Meets pre post (Allows (post g w)))
    {p : Plan α} {g : Grammar} {w : Window} (ha : Asks bindings p g w)
    {pre' : Grammar → Window → Prop} (hpre : ∀ g w, pre' g w → pre g w)
    {goal : Except Halt α → Prop} (hp : p.Meets pre' post goal) : pre' g w := by
  induction ha with
  | here => exact hp.1
  | later hg _ ih =>
    exact ih (hp.2 _ (hg.meets hplan (hplan _ _ (hpre _ _ hp.1)) fun _ => allows_error))

end Meeting

end Packrat
