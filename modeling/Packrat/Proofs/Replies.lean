import Packrat.Grammar.Build
import Packrat.Proofs.Repetitions

/-! # What grammars reply by themselves

What a grammar answers in a session is what it replies when it consumes the window by itself, put
behind the nodes of its parent (`Repertoire.answers_iff_repliesAlone`).  So two grammars that are to
be compared need only be compared by these replies.  Here the replies of lifts, repetitions and
optional matches are given in terms of the replies of their parts.

Grammars that are compared are mostly built, with identities that no one knows beforehand.
`Build.CanMake` says that a grammar may come out of a building.
-/
namespace Packrat

/-! ## What can be built -/

/-- `x.CanMake a`: with some supply of identities, the building `x` ends in `a`. -/
def Build.CanMake {α : Type} (x : Build α) (a : α) : Prop :=
  ∃ supply supply', x.run.run supply = (.ok a, supply')

namespace Build

variable {α β : Type} {x : Build α} {f : α → Build β}

/-- What a building in two steps ends in comes out of the second step. -/
theorem CanMake.of_bind {b : β} (h : CanMake (x >>= f) b) :
    ∃ a, CanMake x a ∧ CanMake (f a) b := by
  obtain ⟨supply, supply', hrun⟩ := h
  rw [run_bind] at hrun
  split at hrun
  · exact ⟨_, ⟨supply, _, ‹_›⟩, ⟨_, supply', hrun⟩⟩
  · cases hrun

end Build

namespace Grammar

variable {g : Grammar}

theorem exists_of_memoize {production : Production} (h : (memoize production).CanMake g) :
    ∃ id, g = memoized id production := by
  obtain ⟨supply, supply', hrun⟩ := h
  cases hrun
  exact ⟨_, rfl⟩

theorem exists_of_choice {branches : List Grammar} (h : (choice branches).CanMake g) :
    ∃ id, g = memoized id (.choice branches none) := by
  rw [choice] at h
  split at h
  · obtain ⟨supply, supply', hrun⟩ := h
    cases hrun
  · exact exists_of_memoize h

/-- The lift of something that was built before. -/
theorem exists_of_bind_lifted {x : Build Grammar} (h : Build.CanMake (x >>= lifted) g) :
    ∃ id body, x.CanMake body ∧ g = memoized id (.lift body none) := by
  obtain ⟨body, hbody, hlift⟩ := h.of_bind
  obtain ⟨id, rfl⟩ := exists_of_memoize hlift
  exact ⟨id, body, hbody, rfl⟩

end Grammar

/-! ## Replies and answers -/

section Changing

variable {α β γ : Type} {p : Except Halt α → Prop} {f : α → β}

/-- A changed result comes from a result. -/
theorem exists_map_eq_ok_iff {b : β} :
    (∃ q, p q ∧ .ok b = q.map f) ↔ ∃ a, p (.ok a) ∧ b = f a := by
  constructor
  · rintro ⟨halt | a, hq, heq⟩
    · cases heq
    · exact ⟨a, hq, Except.ok.inj heq⟩
  · rintro ⟨a, ha, rfl⟩
    exact ⟨_, ha, rfl⟩

/-- Halting is not changed. -/
theorem exists_map_eq_halted_iff {halt : Halt} :
    (∃ q, p q ∧ .error halt = q.map f) ↔ p (.error halt) := by
  constructor
  · rintro ⟨halt' | a, hq, heq⟩ <;> cases heq
    exact hq
  · intro hhalt
    exact ⟨_, hhalt, rfl⟩

/-- Changing twice is changing once. -/
theorem exists_map_map_iff {g : β → γ} {r : Except Halt γ} :
    (∃ q', (∃ q, p q ∧ q' = q.map f) ∧ r = q'.map g) ↔
      ∃ q, p q ∧ r = q.map fun a => g (f a) := by
  have hmap : ∀ q : Except Halt α, (q.map f).map g = q.map fun a => g (f a) := by
    rintro (halt | a) <;> rfl
  constructor
  · rintro ⟨_, ⟨q, hq, rfl⟩, rfl⟩
    exact ⟨q, hq, hmap q⟩
  · rintro ⟨q, hq, rfl⟩
    exact ⟨_, ⟨q, hq, rfl⟩, (hmap q).symm⟩

end Changing

theorem Grammar.RepliesAlone.ne_outOfFuel {bindings : Bindings} {g : Grammar} {w : Window}
    {r : Except Halt Reply} (h : g.RepliesAlone bindings w r) : r ≠ .error .outOfFuel := by
  rcases r with halt | reply
  · exact error_ne_outOfFuel h.1
  · exact ok_ne_outOfFuel _

namespace Repertoire

open Repetition (repliesAlone_iff)

variable {bindings : Bindings} {S : Grammar → Prop} (h : Repertoire bindings S)
include h

/-- A member replies in one way at most. -/
theorem repliesAlone_unique {g : Grammar} (hg : S g) {w : Window} {r r' : Except Halt Reply}
    (hr : g.RepliesAlone bindings w r) (hr' : g.RepliesAlone bindings w r') : r = r' :=
  ((repliesAlone_iff h hg).mp hr).2.unique ((repliesAlone_iff h hg).mp hr').2

theorem match_unique {g : Grammar} (hg : S g) {w rest rest' : Window} {nodes nodes' : List Node}
    (hr : g.RepliesAlone bindings w (.ok (.ok (rest, nodes))))
    (hr' : g.RepliesAlone bindings w (.ok (.ok (rest', nodes')))) :
    rest = rest' ∧ nodes = nodes' := by
  cases h.repliesAlone_unique hg hr hr'
  exact ⟨rfl, rfl⟩

/-- What is left of a window behind a match is a rest of it. -/
theorem continues_of_repliesAlone {g : Grammar} (hg : S g) {w rest : Window} {nodes : List Node}
    (hr : g.RepliesAlone bindings w (.ok (.ok (rest, nodes)))) : w.Continues rest :=
  h.fits hg ((repliesAlone_iff h hg).mp hr).2

/-- A question is answered by the reply to it. -/
theorem settles_ask_iff {α : Type} {g : Grammar} (hg : S g) {w : Window} {next : Reply → Plan α}
    {r : Except Halt α} (hr : r ≠ .error .outOfFuel) :
    Settles bindings (.ask g w next) r ↔
      (∃ reply, g.RepliesAlone bindings w (.ok reply) ∧ Settles bindings (next reply) r) ∨
      ∃ halt, g.RepliesAlone bindings w (.error halt) ∧ r = .error halt := by
  simp only [repliesAlone_iff h hg, settles_ask, ne_eq, reduceCtorEq, not_false_eq_true, true_and]
  refine or_congr_right (exists_congr fun halt => ?_)
  constructor
  · rintro ⟨hs, rfl⟩
    exact ⟨⟨error_ne_outOfFuel hr, hs⟩, rfl⟩
  · rintro ⟨⟨-, hs⟩, rfl⟩
    exact ⟨hs, rfl⟩

/-- A consumer that asks nothing. -/
theorem repliesAlone_of_asks_nothing {g : Grammar} (hg : S g) {w : Window}
    {x : Except Violation Reply} (hplan : g.plan bindings w = .check x) {r : Except Halt Reply} :
    g.RepliesAlone bindings w r ↔ r = x.mapError .violation := by
  rw [repliesAlone_iff h hg, hplan, settles_check]
  constructor
  · rintro ⟨-, hr⟩
    exact hr
  · rintro rfl
    exact ⟨mapError_violation_ne x, rfl⟩

/-- A consumer that asks one question, and only changes the answer to it. -/
theorem repliesAlone_of_asks_once {g body : Grammar} (hg : S g) (hbody : S body) {w : Window}
    {f : Reply → Reply} (hplan : g.plan bindings w = .ask body w fun reply => .answer (f reply))
    {r : Except Halt Reply} :
    g.RepliesAlone bindings w r ↔ ∃ q, body.RepliesAlone bindings w q ∧ r = q.map f := by
  rw [repliesAlone_iff h hg, hplan]
  constructor
  · rintro ⟨hr, hs⟩
    obtain ⟨reply, hreply, hn⟩ | ⟨halt, hhalt, rfl⟩ := (h.settles_ask_iff hbody hr).mp hs
    · exact ⟨.ok reply, hreply, settles_answer.mp hn⟩
    · exact ⟨.error halt, hhalt, rfl⟩
  · rintro ⟨halt | reply, hq, rfl⟩
    · exact ⟨hq.ne_outOfFuel, .halt ((repliesAlone_iff h hbody).mp hq).2⟩
    · exact ⟨ok_ne_outOfFuel _, .ask ((repliesAlone_iff h hbody).mp hq).2 .done⟩

end Repertoire

/-- **An answer is a reply**, for a consumer of a repertoire whose members have filled the table. -/
theorem Repertoire.answers_iff_repliesAlone {env : Environment} {S : Grammar → Prop}
    (h : Repertoire env.bindings S) {g : Grammar} (hg : S g) {w : Window} {s : Session}
    (hs : s.Reached env S w.buffer) {parent : NodeBuilder} {r : Except Halt Outcome} :
    g.Answers env w parent s r ↔
      ∃ r', r = r'.map (Reply.outcome parent) ∧ g.RepliesAlone env.bindings w r' := by
  rw [h.answers_iff_settles hg rfl (h.valid_of_reached hs)]
  simp only [Repetition.repliesAlone_iff h hg]

section Answering

variable {env : Environment} {S : Grammar → Prop} (h : Repertoire env.bindings S) {g : Grammar}
  (hg : S g) {w : Window} {s : Session} (hs : s.Reached env S w.buffer) {parent after : NodeBuilder}
include h hg hs

theorem Repertoire.answers_matched_iff {rest : Window} :
    g.Answers env w parent s (.ok ⟨.ok rest, after⟩) ↔
      ∃ nodes, after = parent.extend nodes ∧
        g.RepliesAlone env.bindings w (.ok (.ok (rest, nodes))) := by
  rw [h.answers_iff_repliesAlone hg hs]
  constructor
  · rintro ⟨halt | e | ⟨rest', nodes⟩, heq, hr⟩ <;> cases heq
    exact ⟨nodes, rfl, hr⟩
  · rintro ⟨nodes, rfl, hr⟩
    exact ⟨_, rfl, hr⟩

theorem Repertoire.answers_extend_iff {rest : Window} {nodes : List Node} :
    g.Answers env w parent s (.ok ⟨.ok rest, parent.extend nodes⟩) ↔
      g.RepliesAlone env.bindings w (.ok (.ok (rest, nodes))) := by
  rw [h.answers_matched_iff hg hs]
  constructor
  · rintro ⟨nodes', heq, hr⟩
    rwa [parent.extend_injective heq]
  · intro hr
    exact ⟨nodes, rfl, hr⟩

theorem Repertoire.answers_failed_iff {e : ParseError} :
    g.Answers env w parent s (.ok ⟨.error e, after⟩) ↔
      after = parent ∧ g.RepliesAlone env.bindings w (.ok (.error e)) := by
  rw [h.answers_iff_repliesAlone hg hs]
  constructor
  · rintro ⟨halt | e | ⟨rest', nodes⟩, heq, hr⟩ <;> cases heq
    exact ⟨rfl, hr⟩
  · rintro ⟨rfl, hr⟩
    exact ⟨_, rfl, hr⟩

theorem Repertoire.answers_halted_iff {halt : Halt} :
    g.Answers env w parent s (.error halt) ↔ g.RepliesAlone env.bindings w (.error halt) := by
  rw [h.answers_iff_repliesAlone hg hs]
  constructor
  · rintro ⟨halt | e | ⟨rest', nodes⟩, heq, hr⟩ <;> cases heq
    exact hr
  · intro hr
    exact ⟨_, rfl, hr⟩

end Answering

/-! ## Lifts -/

/-- The reply with the children of its nodes in their place. -/
def Reply.lifted (reply : Reply) : Reply :=
  reply.map fun (rest, nodes) => (rest, nodes.flatMap (·.children))

/-- A lift without a factory hands on what is below the nodes of its body. -/
theorem Repertoire.repliesAlone_lift {bindings : Bindings} {S : Grammar → Prop}
    (h : Repertoire bindings S) {id : ConsumerId} {body : Grammar}
    (hg : S (.memoized id (.lift body none))) {w : Window} {r : Except Halt Reply} :
    (Grammar.memoized id (.lift body none)).RepliesAlone bindings w r ↔
      ∃ q, body.RepliesAlone bindings w q ∧ r = q.map Reply.lifted := by
  refine h.repliesAlone_of_asks_once hg (h.closed _ _ hg (.inl (.head _))) ?_
  refine congrArg (Plan.ask body w) (funext fun reply => ?_)
  rcases reply with e | ⟨rest, nodes⟩ <;> rfl

/-! ## Joins -/

/-- The reply with one node in the place of its nodes, which holds their values. -/
def Reply.joined (joint : String) (w : Window) (reply : Reply) : Reply :=
  reply.map fun (rest, nodes) =>
    (rest, [⟨some ⟨w.start, rest.start⟩, some (Node.joinValues joint nodes), none, []⟩])

/-- A join without a factory makes one node of the values of its body. -/
theorem Repertoire.repliesAlone_join {bindings : Bindings} {S : Grammar → Prop}
    (h : Repertoire bindings S) {id : ConsumerId} {joint : String} {body : Grammar}
    (hg : S (.memoized id (.join joint body none))) {w : Window} {r : Except Halt Reply} :
    (Grammar.memoized id (.join joint body none)).RepliesAlone bindings w r ↔
      ∃ q, body.RepliesAlone bindings w q ∧ r = q.map (Reply.joined joint w) := by
  refine h.repliesAlone_of_asks_once hg (h.closed _ _ hg (.inl (.head _))) ?_
  refine congrArg (Plan.ask body w) (funext fun reply => ?_)
  rcases reply with e | ⟨rest, nodes⟩ <;> rfl

/-! ## Skips and lookaheads -/

/-- The reply without its nodes. -/
def Reply.skipped (reply : Reply) : Reply :=
  reply.map fun (rest, _) => (rest, [])

/-- The reply that leaves `w` as it was, without nodes. -/
def Reply.peeked (w : Window) (reply : Reply) : Reply :=
  reply.map fun _ => (w, [])

theorem Repertoire.repliesAlone_skip {bindings : Bindings} {S : Grammar → Prop}
    (h : Repertoire bindings S) {body : Grammar} (hg : S (.skip body)) {w : Window}
    {r : Except Halt Reply} :
    (Grammar.skip body).RepliesAlone bindings w r ↔
      ∃ q, body.RepliesAlone bindings w q ∧ r = q.map Reply.skipped :=
  h.repliesAlone_of_asks_once hg (h.closed _ _ hg (.inl (.head _))) rfl

theorem Grammar.exists_of_peek {look body : Grammar} (h : (peek body).CanMake look) :
    ∃ id, look = .skip (.memoized id (.preserve body none)) := by
  obtain ⟨preserved, hpreserved, hlook⟩ := h.of_bind
  obtain ⟨id, rfl⟩ := exists_of_memoize hpreserved
  obtain ⟨supply, supply', hrun⟩ := hlook
  cases hrun
  exact ⟨id, rfl⟩

/-- A lookahead hands on whether its body matches, and the error if it does not. -/
theorem Repertoire.repliesAlone_peek {bindings : Bindings} {S : Grammar → Prop}
    (h : Repertoire bindings S) {look body : Grammar} (hg : S look)
    (hmade : (Grammar.peek body).CanMake look) {w : Window} {r : Except Halt Reply} :
    look.RepliesAlone bindings w r ↔
      ∃ q, body.RepliesAlone bindings w q ∧ r = q.map (Reply.peeked w) := by
  obtain ⟨id, rfl⟩ := Grammar.exists_of_peek hmade
  have hS : S (.memoized id (.preserve body none)) := h.closed _ _ hg (.inl (.head _))
  let preserved (reply : Reply) : Reply := reply.map fun (_, nodes) =>
    (w, [⟨some ⟨w.start, w.start⟩, none, none, nodes⟩])
  have hplan : (Grammar.memoized id (.preserve body none)).plan bindings w =
      .ask body w fun reply => .answer (preserved reply) := by
    refine congrArg (Plan.ask body w) (funext fun reply => ?_)
    rcases reply with e | ⟨rest, nodes⟩ <;> rfl
  have hpeeked : (fun reply => (preserved reply).skipped) = Reply.peeked w := by
    funext reply
    rcases reply with e | ⟨rest, nodes⟩ <;> rfl
  rw [h.repliesAlone_skip hg]
  simp only [h.repliesAlone_of_asks_once hS (h.closed _ _ hS (.inl (.head _))) hplan,
    exists_map_map_iff, hpeeked]

/-! ## Nodes made of what was gathered -/

section Gathering

open Repetition (accepted)

variable {bindings : Bindings} {factory : Option Factory} {input rest : Window}

theorem accepted_none (nodes : List Node) :
    accepted none input rest nodes =
      .ok (.ok (rest, [⟨some ⟨input.start, rest.start⟩, none, none, nodes⟩])) := rfl

theorem accepted_ne_outOfFuel (nodes : List Node) :
    accepted factory input rest nodes ≠ .error .outOfFuel := by
  rw [accepted]
  cases Factory.createWith factory (input.taken rest) nodes with
  | error v => simp
  | ok attachment => exact ok_ne_outOfFuel _

/-- The reply of a production that makes one node of all that was matched, if it was. -/
def gathered (factory : Option Factory) (input : Window) :
    Except Halt Reply → Except Halt Reply
  | .ok (.ok (rest, nodes)) => accepted factory input rest nodes
  | stopped => stopped

/-- The lift of the node takes it away again. -/
theorem map_lifted_gathered_none (q : Except Halt Reply) :
    (gathered none input q).map Reply.lifted = q := by
  rcases q with halt | e | ⟨rest, nodes⟩
  · rfl
  · rfl
  · simp [gathered, accepted_none, Reply.lifted]

theorem gathered_ne_outOfFuel {q : Except Halt Reply} (hq : q ≠ .error .outOfFuel) :
    gathered factory input q ≠ .error .outOfFuel := by
  rcases q with halt | e | ⟨rest, nodes⟩
  · exact hq
  · exact hq
  · exact accepted_ne_outOfFuel nodes

/-- Making a node does not fail: it succeeds, or the factory halts. -/
theorem gathered_eq_failed_iff {q : Except Halt Reply} {e : ParseError} :
    gathered factory input q = .ok (.error e) ↔ q = .ok (.error e) := by
  rcases q with halt | e' | ⟨rest, nodes⟩
  · rfl
  · rfl
  · rw [gathered, accepted]
    cases Factory.createWith factory (input.taken rest) nodes <;> simp

/-- The end of a production that hands on the node it has made. -/
theorem settles_planFinish {production : Production}
    (hhands : ∀ me, production.handed me = .ok [me]) (hc : input.Continues rest)
    {nodes : List Node} {r : Except Halt Reply} :
    Settles bindings
        ((Production.planFinish factory input rest nodes).andThen production.planApplied) r ↔
      r = accepted factory input rest nodes := by
  rw [Production.planFinish, Production.attachmentFor_eq hc.slice_eq, accepted]
  cases Factory.createWith factory (input.taken rest) nodes with
  | error v => exact settles_done
  | ok attachment =>
    simp [Production.planApplied, hhands]

end Gathering

/-! ## Repetitions -/

namespace Repertoire

open Repetition

variable {bindings : Bindings} {S : Grammar → Prop} (h : Repertoire bindings S) {w : Window}
  {r : Except Halt Reply}
include h

/-- A repetition replies what the chain of matches of its body comes to. -/
theorem repliesAlone_repetition {id : ConsumerId} {min : Nat} {max : Option Nat} {body : Grammar}
    {factory : Option Factory} (hg : S (.memoized id (.repetition min max body factory)))
    (hcount : CanCount max w (max.getD (w.length + 1)) 0 w) :
    (Grammar.memoized id (.repetition min max body factory)).RepliesAlone bindings w r ↔
      ∃ chain ending, Chain bindings body max w chain ending ∧
        r = ending.reply min factory w chain := by
  have hS : S body := h.closed _ _ hg (.inl (.head _))
  have hturns : Suffices max (max.getD (w.length + 1)) w := by
    cases max with
    | some bound => rfl
    | none => exact Nat.lt_succ_self _
  rw [repliesAlone_iff h hg]
  constructor
  · rintro ⟨hr, hs⟩
    obtain ⟨chain, ending, hchain⟩ : ∃ chain ending, Chain bindings body max w chain ending := by
      obtain ⟨made, hmade, -⟩ | ⟨halt, hhalt, rfl⟩ := settles_andThen.mp hs
      · exact exists_chain_of_settles h hS hturns .rfl hcount (.refl w) hmade (ok_ne_outOfFuel _)
      · exact exists_chain_of_settles h hS hturns .rfl hcount (.refl w) hhalt
          (error_ne_outOfFuel hr)
    exact ⟨chain, ending, hchain, hs.unique (hchain.settles_reply h hS hturns hcount)⟩
  · rintro ⟨chain, ending, hchain, rfl⟩
    exact ⟨hchain.reply_ne_outOfFuel chain, hchain.settles_reply h hS hturns hcount⟩

/-- A lifted repetition replies with the nodes of its chain themselves. -/
theorem repliesAlone_liftedRepetition {g : Grammar} (hg : S g) {min : Nat} {max : Option Nat}
    {body : Grammar} (hmade : (Grammar.liftedRepetition min max body).CanMake g)
    (hcount : CanCount max w (max.getD (w.length + 1)) 0 w) :
    g.RepliesAlone bindings w r ↔
      ∃ chain ending, Chain bindings body max w chain ending ∧
        r = (ending.reply min none w chain).map Reply.lifted := by
  obtain ⟨id, repeated, hrepeated, rfl⟩ := Grammar.exists_of_bind_lifted hmade
  obtain ⟨id', rfl⟩ := Grammar.exists_of_memoize hrepeated
  rw [h.repliesAlone_lift hg]
  simp only [h.repliesAlone_repetition (h.closed _ _ hg (.inl (.head _))) hcount]
  constructor
  · rintro ⟨_, ⟨chain, ending, hchain, rfl⟩, rfl⟩
    exact ⟨chain, ending, hchain, rfl⟩
  · rintro ⟨chain, ending, hchain, rfl⟩
    exact ⟨_, ⟨chain, ending, hchain, rfl⟩, rfl⟩

theorem body_of_liftedRepetition {g : Grammar} (hg : S g) {min : Nat}
    {max : Option Nat} {body : Grammar}
    (hmade : (Grammar.liftedRepetition min max body).CanMake g) : S body := by
  obtain ⟨id, repeated, hrepeated, rfl⟩ := Grammar.exists_of_bind_lifted hmade
  obtain ⟨id', rfl⟩ := Grammar.exists_of_memoize hrepeated
  exact h.closed _ _ (h.closed _ _ hg (.inl (.head _))) (.inl (.head _))

end Repertoire

/-- The reply where nothing need match: a recoverable error is a match that takes nothing. -/
def Reply.orNothing (w : Window) : Reply → Reply
  | .ok made => .ok made
  | .error e => if e.isRecoverable then .ok (w, []) else .error e

namespace Repetition

variable {bindings : Bindings} {body : Grammar} {w : Window} {q : Except Halt Reply}

/-- The chain of at most one match. -/
theorem exists_chain_of_reply_once (hq : body.RepliesAlone bindings w q) :
    ∃ chain ending, Chain bindings body (some 1) w chain ending ∧
      (ending.reply 0 none w chain).map Reply.lifted = q.map (Reply.orNothing w) := by
  have hleft : some 1 ≠ some 0 := by decide
  rcases q with halt | e | ⟨rest, nodes⟩
  · exact ⟨[], .halted halt, .halted hleft hq, rfl⟩
  · cases hrecoverable : e.isRecoverable with
    | true =>
      refine ⟨[], .refused, .refused hleft hq hrecoverable, ?_⟩
      simp [Ending.reply, accepted_none, Reply.lifted, Reply.orNothing, hrecoverable, restAfter]
    | false =>
      refine ⟨[], .failed e, .failed hleft hq hrecoverable, ?_⟩
      simp [Ending.reply, Reply.lifted, Reply.orNothing, hrecoverable]
  · have hbounded : some 1 = none → rest.start ≠ w.start := fun h => by cases h
    refine ⟨[⟨rest, nodes⟩], .full, .link hleft hq hbounded .full, ?_⟩
    simp [Ending.reply, accepted_none, Reply.lifted, Reply.orNothing, restAfter]

theorem Chain.exists_reply_once {chain : List Match} {ending : Ending}
    (hchain : Chain bindings body (some 1) w chain ending) :
    ∃ q, body.RepliesAlone bindings w q := by
  cases hchain with
  | refused _ hreply => exact ⟨_, hreply⟩
  | failed _ hreply => exact ⟨_, hreply⟩
  | halted _ hreply => exact ⟨_, hreply⟩
  | link _ hreply => exact ⟨_, hreply⟩

end Repetition

/-- An optional match is what its body matches, or nothing. -/
theorem Repertoire.repliesAlone_liftedOptional {bindings : Bindings} {S : Grammar → Prop}
    (h : Repertoire bindings S) {g body : Grammar} (hg : S g)
    (hmade : (Grammar.liftedOptional body).CanMake g) {w : Window} {r : Except Halt Reply} :
    g.RepliesAlone bindings w r ↔
      ∃ q, body.RepliesAlone bindings w q ∧ r = q.map (Reply.orNothing w) := by
  have hcount : CanCount (some 1) w ((some 1).getD (w.length + 1)) 0 w := ⟨Nat.le_refl 1, by decide⟩
  have hreplies : ∀ r, g.RepliesAlone bindings w r ↔ _ := fun _ =>
    h.repliesAlone_liftedRepetition hg hmade hcount
  constructor
  · intro hr
    obtain ⟨chain, ending, hchain, -⟩ := (hreplies r).mp hr
    obtain ⟨q, hq⟩ := hchain.exists_reply_once
    obtain ⟨chain', ending', hchain', heq⟩ := Repetition.exists_chain_of_reply_once hq
    have hr' := (hreplies _).mpr ⟨chain', ending', hchain', rfl⟩
    exact ⟨q, hq, (h.repliesAlone_unique hg hr hr').trans heq⟩
  · rintro ⟨q, hq, rfl⟩
    obtain ⟨chain, ending, hchain, heq⟩ := Repetition.exists_chain_of_reply_once hq
    exact (hreplies _).mpr ⟨chain, ending, hchain, heq.symm⟩

end Packrat
