import Packrat.Proofs.Termination

/-! # What a repetition takes

Consuming the same grammar again and again, from a window and then from what each match leaves of
it, makes a chain of matches.  `Chain` says when such a chain is as long as it may be: its end is a
bound on the number of matches, a failure of the grammar, or, where there is no bound, a match that
takes nothing.  A repetition makes its node of exactly this chain (`repetition_answers_iff`).

The chain is defined by what the grammar replies when it consumes each window by itself, with no
memo table and nothing made before.  A turn of the loop and a link of the chain correspond to each
other, in both directions: a chain tells what the loop comes to (`Chain.settles`), and where the
loop comes to an end there is a chain (`exists_chain_of_settles`).
-/
namespace Packrat

/-- What `g` replies when it consumes `w` by itself: nothing has been made or remembered before. -/
def Grammar.RepliesAlone (bindings : Bindings) (g : Grammar) (w : Window) (r : Except Halt Reply) :
    Prop :=
  g.Answers ⟨bindings, false⟩ w .empty {} (r.map (Reply.outcome .empty))

namespace Repetition

/-- A match: the window it left, and the nodes it made. -/
structure Match where
  rest : Window
  nodes : List Node

/-- The window that a chain of matches from `cursor` on leaves. -/
def restAfter (cursor : Window) : List Match → Window
  | [] => cursor
  | link :: chain => restAfter link.rest chain

/-- What is behind the last match of a chain. -/
inductive Ending where
  /-- There are as many matches as there may be. -/
  | full
  /-- The grammar failed recoverably. -/
  | refused
  /-- The last match took nothing, and there may be any number of matches. -/
  | idle
  /-- The grammar failed with an error that is not recoverable. -/
  | failed (error : ParseError)
  /-- The grammar broke off. -/
  | halted (halt : Halt)

/-- The matches of `body` from a window on, each where the one before it stopped: no more than
`left` of them, if that is a number, and otherwise none behind one that takes nothing. -/
inductive Chain (bindings : Bindings) (body : Grammar) :
    Option Nat → Window → List Match → Ending → Prop
  | full {cursor : Window} : Chain bindings body (some 0) cursor [] .full
  | refused {left : Option Nat} {cursor : Window} {e : ParseError} :
      left ≠ some 0 → body.RepliesAlone bindings cursor (.ok (.error e)) → e.isRecoverable = true →
      Chain bindings body left cursor [] .refused
  | failed {left : Option Nat} {cursor : Window} {e : ParseError} :
      left ≠ some 0 → body.RepliesAlone bindings cursor (.ok (.error e)) → e.isRecoverable = false →
      Chain bindings body left cursor [] (.failed e)
  | halted {left : Option Nat} {cursor : Window} {h : Halt} :
      left ≠ some 0 → body.RepliesAlone bindings cursor (.error h) →
      Chain bindings body left cursor [] (.halted h)
  | idle {cursor : Window} {link : Match} :
      body.RepliesAlone bindings cursor (.ok (.ok (link.rest, link.nodes))) →
      link.rest.start = cursor.start → Chain bindings body none cursor [link] .idle
  | link {left : Option Nat} {cursor : Window} {link : Match} {chain : List Match}
      {ending : Ending} :
      left ≠ some 0 → body.RepliesAlone bindings cursor (.ok (.ok (link.rest, link.nodes))) →
      (left = none → link.rest.start ≠ cursor.start) →
      Chain bindings body (left.map (· - 1)) link.rest chain ending →
      Chain bindings body left cursor (link :: chain) ending

/-- The reply of a repetition that matched up to `rest`: one node with `nodes` as its children. -/
def accepted (factory : Option Factory) (input rest : Window) (nodes : List Node) :
    Except Halt Reply :=
  ((Factory.createWith factory (input.taken rest) nodes).mapError .violation).map
    fun attachment => .ok (rest, [⟨some ⟨input.start, rest.start⟩, none, attachment, nodes⟩])

/-- The reply of a repetition with `count` matches, fewer than there must be. -/
def rejected (min : Nat) (input : Window) (count : Nat) : Except Halt Reply :=
  .ok (.error
    (.mismatch ("Out of bounds (" ++ toString count ++ " < " ++ toString min ++ ")") input.start
      none))

/-- What a repetition replies for its chain.  An error behind the last match is its own; else it
makes its node of all the nodes of the chain, unless there are too few matches.  A match that could
be repeated for ever meets any minimum. -/
def Ending.reply (min : Nat) (factory : Option Factory) (input : Window) (chain : List Match) :
    Ending → Except Halt Reply
  | halted h => .error h
  | failed e => .ok (.error e)
  | idle => accepted factory input (restAfter input chain) (chain.flatMap (·.nodes))
  | _ =>
    if chain.length < min then rejected min input chain.length
    else accepted factory input (restAfter input chain) (chain.flatMap (·.nodes))

/-! ## The end of the loop -/

/-- The plan at the end of a loop that has counted `count` matches. -/
def Ending.plan (min : Nat) (factory : Option Factory) (input cursor : Window) (count : Nat)
    (nodes : List Node) : Ending → Plan (Except ParseError (Window × Node))
  | halted h => .done (.error h)
  | failed e => .answer (.error e)
  | idle => Production.planFinishRepetition min factory input cursor (Nat.max count min) nodes
  | _ => Production.planFinishRepetition min factory input cursor count nodes

section Finishing

variable {bindings : Bindings} {min : Nat} {max : Option Nat} {body : Grammar}
  {factory : Option Factory} {input cursor : Window}

/-- With its count, a repetition is accepted or rejected. -/
theorem settles_planFinishRepetition (hc : input.Continues cursor) {count : Nat}
    {nodes : List Node} {r : Except Halt Reply}
    (hr : (if count < min then rejected min input count
      else accepted factory input cursor nodes) = r) :
    Settles bindings
      ((Production.planFinishRepetition min factory input cursor count nodes).andThen
        (Production.repetition min max body factory).planApplied) r := by
  rw [Production.planFinishRepetition, ← hr]
  split
  · exact .done
  · rw [Production.planFinish, Production.attachmentFor_eq hc.slice_eq, accepted]
    cases Factory.createWith factory (input.taken cursor) nodes <;> exact .done

/-- The loop ends in the reply for its chain. -/
theorem Ending.settles_reply (ending : Ending) {chain : List Match}
    (hc : input.Continues (restAfter input chain)) :
    Settles bindings
      ((ending.plan min factory input (restAfter input chain) chain.length
        (chain.flatMap (·.nodes))).andThen
        (Production.repetition min max body factory).planApplied)
      (ending.reply min factory input chain) := by
  cases ending with
  | halted h => exact .done
  | failed e => exact .done
  | idle =>
    have hcount : ¬ Nat.max chain.length min < min := Nat.not_lt.mpr (Nat.le_max_right _ _)
    exact settles_planFinishRepetition hc (if_neg hcount)
  | full => exact settles_planFinishRepetition hc rfl
  | refused => exact settles_planFinishRepetition hc rfl

end Finishing

/-! ## Turns of the loop -/

/-- `turns` turns are enough for a chain of at most `left` matches: as many as there may be matches,
or more than there are characters. -/
def Suffices (left : Option Nat) (turns : Nat) (cursor : Window) : Prop :=
  match left with
  | some bound => turns = bound
  | none => cursor.length < turns

namespace Suffices

variable {left : Option Nat} {turns : Nat} {cursor rest : Window}

theorem eq_zero (h : Suffices left 0 cursor) : left = some 0 := by
  cases left with
  | some bound => exact congrArg some h.symm
  | none => exact absurd h (Nat.not_lt_zero _)

theorem ne_zero (h : Suffices left (turns + 1) cursor) : left ≠ some 0 := by
  rintro rfl
  cases h

/-- There is a turn for a further match. -/
theorem exists_succ (h : Suffices left turns cursor) (hleft : left ≠ some 0) :
    ∃ n, turns = n + 1 := by
  cases turns with
  | zero => exact absurd h.eq_zero hleft
  | succ n => exact ⟨n, rfl⟩

/-- Behind a match that takes something, or with a bound, one turn fewer is enough. -/
theorem next (h : Suffices left (turns + 1) cursor) (hc : cursor.Continues rest)
    (hmoves : left = none → rest.start ≠ cursor.start) :
    Suffices (left.map (· - 1)) turns rest := by
  cases left with
  | some bound =>
    obtain rfl : turns + 1 = bound := h
    rfl
  | none =>
    have hlength : cursor.length < turns + 1 := h
    exact Nat.lt_of_lt_of_le (hc.length_lt (hc.lt_start_of_ne (hmoves rfl)))
      (Nat.le_of_lt_succ hlength)

end Suffices

section Looping

variable {bindings : Bindings} {S : Grammar → Prop} (h : Repertoire bindings S)
  {min : Nat} {max : Option Nat} {body : Grammar} (hS : S body) {factory : Option Factory}
  {input cursor rest : Window}

include h in
theorem repliesAlone_iff {g : Grammar} (hg : S g) {w : Window} {r : Except Halt Reply} :
    g.RepliesAlone bindings w r ↔
      r ≠ .error .outOfFuel ∧ Settles bindings (g.plan bindings w) r := by
  have hv : ({} : Session).Valid ⟨bindings, false⟩ S w.buffer := nofun
  have hplain : Repertoire (Environment.mk bindings false).bindings S := h
  rw [Grammar.RepliesAlone, hplain.answers_iff_settles hg rfl hv]
  constructor
  · rintro ⟨r', heq, hr', hsettles⟩
    obtain rfl := map_outcome_injective heq
    exact ⟨hr', hsettles⟩
  · rintro ⟨hr, hsettles⟩
    exact ⟨r, rfl, hr, hsettles⟩

/-- A question whose reply is known. -/
theorem settles_ask_of_reply {α : Type} {g : Grammar} {w : Window} {next : Reply → Plan α}
    {reply : Reply} (hg : Settles bindings (g.plan bindings w) (.ok reply)) {r : Except Halt α} :
    Settles bindings (.ask g w next) r ↔ Settles bindings (next reply) r := by
  refine ⟨fun hs => ?_, fun hn => .ask hg hn⟩
  obtain ⟨reply', hg', hn⟩ | ⟨e, hg', -⟩ := settles_ask.mp hs
  · obtain rfl := Except.ok.inj (hg.unique hg')
    exact hn
  · cases hg.unique hg'

/-- A turn that makes a match and goes on. -/
theorem settles_turn {turns count : Nat} {nodes more : List Node}
    (hcount : CanCount max input (turns + 1) count cursor) (hi : input.Continues cursor)
    (hreply : Settles bindings (body.plan bindings cursor) (.ok (.ok (rest, more))))
    (hmoves : max = none → cursor.start < rest.start)
    {r : Except Halt (Except ParseError (Window × Node))} :
    Settles bindings
        (Production.planMatches min max body factory input (turns + 1) count cursor nodes) r ↔
      Settles bindings
        (Production.planMatches min max body factory input turns (count + 1) rest (nodes ++ more))
        r := by
  have hgoes : ¬ (max.isNone && !(cursor.start < rest.start)) = true := by
    rintro hstop
    obtain ⟨hnone, hstart⟩ := Bool.and_eq_true_iff.mp hstop
    simp [hmoves (Option.isNone_iff_eq_none.mp hnone)] at hstart
  rw [Production.planMatches, settles_ask_of_reply hreply]
  dsimp only
  rw [hcount.addPosition_eq hi, Plan.check_ok, Plan.answer_andThen, if_neg hgoes]

/-- A turn whose match is the last one because it takes nothing. -/
theorem settles_last_turn {turns count : Nat} {nodes more : List Node}
    (hcount : CanCount none input (turns + 1) count cursor) (hi : input.Continues cursor)
    (hreply : Settles bindings (body.plan bindings cursor) (.ok (.ok (rest, more))))
    (hidle : rest.start = cursor.start) {r : Except Halt (Except ParseError (Window × Node))} :
    Settles bindings
        (Production.planMatches min none body factory input (turns + 1) count cursor nodes) r ↔
      Settles bindings
        (Production.planFinishRepetition min factory input rest (Nat.max (count + 1) min)
          (nodes ++ more)) r := by
  have hstops : ((none : Option Nat).isNone && !(cursor.start < rest.start)) = true := by
    simp [hidle]
  rw [Production.planMatches, settles_ask_of_reply hreply]
  dsimp only
  rw [hcount.addPosition_eq hi, Plan.check_ok, Plan.answer_andThen, if_pos hstops]

include h hS in
/-- **The chain tells what the loop comes to.**  By induction on the chain: each link is a turn. -/
theorem Chain.settles {left : Option Nat} {chain : List Match} {ending : Ending}
    (hchain : Chain bindings body left cursor chain ending) :
    ∀ {turns count : Nat} {nodes : List Node}, Suffices left turns cursor →
      (max = none ↔ left = none) → CanCount max input turns count cursor → input.Continues cursor →
      ∀ {r}, Settles bindings
        (ending.plan min factory input (restAfter cursor chain) (count + chain.length)
          (nodes ++ chain.flatMap (·.nodes))) r →
      Settles bindings
        (Production.planMatches min max body factory input turns count cursor nodes) r := by
  induction hchain with
  | full =>
    intro turns count nodes hturns hmax _ _ r hr
    obtain rfl : turns = 0 := hturns
    obtain ⟨bound, rfl⟩ : ∃ bound, max = some bound :=
      Option.ne_none_iff_exists'.mp fun hnone => absurd (hmax.mp hnone) (Option.some_ne_none 0)
    rw [Production.planMatches]
    simpa [Ending.plan, restAfter] using hr
  | refused hleft hreply hrecoverable =>
    intro turns count nodes hturns _ _ _ r hr
    obtain ⟨turns, rfl⟩ := hturns.exists_succ hleft
    rw [Production.planMatches, settles_ask_of_reply ((repliesAlone_iff h hS).mp hreply).2]
    dsimp only
    rw [if_pos hrecoverable]
    simpa [Ending.plan, restAfter] using hr
  | failed hleft hreply hfatal =>
    intro turns count nodes hturns _ _ _ r hr
    obtain ⟨turns, rfl⟩ := hturns.exists_succ hleft
    rw [Production.planMatches, settles_ask_of_reply ((repliesAlone_iff h hS).mp hreply).2]
    dsimp only
    rw [if_neg (by simp [hfatal])]
    exact hr
  | halted hleft hreply =>
    intro turns count nodes hturns _ _ _ r hr
    obtain ⟨turns, rfl⟩ := hturns.exists_succ hleft
    obtain rfl := settles_done.mp hr
    exact .halt ((repliesAlone_iff h hS).mp hreply).2
  | idle hreply hidle =>
    intro turns count nodes hturns hmax hcount hi r hr
    obtain ⟨turns, rfl⟩ := hturns.exists_succ (Option.some_ne_none 0).symm
    obtain rfl := hmax.mpr rfl
    rw [settles_last_turn hcount hi ((repliesAlone_iff h hS).mp hreply).2 hidle]
    simpa [Ending.plan, restAfter] using hr
  | @link left cursor link chain ending hleft hreply hmoves _ ih =>
    intro turns count nodes hturns hmax hcount hi r hr
    obtain ⟨turns, rfl⟩ := hturns.exists_succ hleft
    have hsettles := ((repliesAlone_iff h hS).mp hreply).2
    have hc : cursor.Continues link.rest := h.fits hS hsettles
    have hmoved : max = none → cursor.start < link.rest.start := fun hnone =>
      hc.lt_start_of_ne (hmoves (hmax.mp hnone))
    rw [settles_turn hcount hi hsettles hmoved]
    refine ih (hturns.next hc hmoves) (by simpa using hmax) (hcount.next hmoved) (hi.trans hc) ?_
    simpa [restAfter, Nat.add_assoc, Nat.add_comm 1] using hr

include h hS in
/-- A chain starts with whatever the grammar replies. -/
theorem exists_chain_of_reply {left : Option Nat} {turns : Nat}
    (hturns : Suffices left (turns + 1) cursor) {r : Except Halt Reply}
    (hreply : body.RepliesAlone bindings cursor r)
    (hnext : ∀ rest nodes, r = .ok (.ok (rest, nodes)) → cursor.Continues rest →
      (left = none → rest.start ≠ cursor.start) →
      ∃ chain ending, Chain bindings body (left.map (· - 1)) rest chain ending) :
    ∃ chain ending, Chain bindings body left cursor chain ending := by
  have hleft := hturns.ne_zero
  rcases r with e | e | ⟨rest, nodes⟩
  · exact ⟨[], .halted e, .halted hleft hreply⟩
  · cases hrecoverable : e.isRecoverable with
    | true => exact ⟨[], .refused, .refused hleft hreply hrecoverable⟩
    | false => exact ⟨[], .failed e, .failed hleft hreply hrecoverable⟩
  · have hc : cursor.Continues rest := h.fits hS ((repliesAlone_iff h hS).mp hreply).2
    by_cases hidle : left = none ∧ rest.start = cursor.start
    · obtain ⟨rfl, hidle⟩ := hidle
      exact ⟨[⟨rest, nodes⟩], .idle, .idle hreply hidle⟩
    · have hmoves : left = none → rest.start ≠ cursor.start := fun hnone heq => hidle ⟨hnone, heq⟩
      obtain ⟨chain, ending, hchain⟩ := hnext rest nodes rfl hc hmoves
      exact ⟨⟨rest, nodes⟩ :: chain, ending, .link hleft hreply hmoves hchain⟩

include h hS in
/-- Where the loop comes to an end, there is a chain. -/
theorem exists_chain_of_settles :
    ∀ {turns count : Nat} {left : Option Nat} {cursor : Window} {nodes : List Node},
      Suffices left turns cursor → (max = none ↔ left = none) →
      CanCount max input turns count cursor → input.Continues cursor →
      ∀ {r}, Settles bindings
        (Production.planMatches min max body factory input turns count cursor nodes) r →
      r ≠ .error .outOfFuel → ∃ chain ending, Chain bindings body left cursor chain ending := by
  intro turns
  induction turns with
  | zero =>
    intro count left cursor nodes hturns _ _ _ r _ _
    obtain rfl := hturns.eq_zero
    exact ⟨[], .full, .full⟩
  | succ turns ih =>
    intro count left cursor nodes hturns hmax hcount hi r hr hne
    have hask := hr
    rw [Production.planMatches] at hask
    obtain ⟨reply, hreply, -⟩ | ⟨e, hreply, rfl⟩ := settles_ask.mp hask
    · refine exists_chain_of_reply h hS hturns
        ((repliesAlone_iff h hS).mpr ⟨ok_ne_outOfFuel _, hreply⟩) fun rest more heq hc hmoves => ?_
      obtain rfl := Except.ok.inj heq
      have hmoved : max = none → cursor.start < rest.start := fun hnone =>
        hc.lt_start_of_ne (hmoves (hmax.mp hnone))
      rw [settles_turn hcount hi hreply hmoved] at hr
      exact ih (hturns.next hc hmoves) (by simpa using hmax) (hcount.next hmoved) (hi.trans hc) hr
        hne
    · refine exists_chain_of_reply h hS hturns
        ((repliesAlone_iff h hS).mpr ⟨error_ne_outOfFuel hne, hreply⟩) fun _ _ heq => ?_
      cases heq

include h hS in
/-- There is a chain if the grammar replies at each window of it. -/
theorem exists_chain (hbody : ∀ w, input.Continues w → ∃ r, body.RepliesAlone bindings w r) :
    ∀ {turns : Nat} {left : Option Nat} {cursor : Window}, Suffices left turns cursor →
      input.Continues cursor → ∃ chain ending, Chain bindings body left cursor chain ending := by
  intro turns
  induction turns with
  | zero =>
    intro left cursor hturns _
    obtain rfl := hturns.eq_zero
    exact ⟨[], .full, .full⟩
  | succ turns ih =>
    intro left cursor hturns hi
    obtain ⟨r, hreply⟩ := hbody cursor hi
    exact exists_chain_of_reply h hS hturns hreply fun rest nodes _ hc hmoves =>
      ih (hturns.next hc hmoves) (hi.trans hc)

include h hS in
/-- A chain leaves a rest of its window. -/
theorem Chain.continues {left : Option Nat} {chain : List Match} {ending : Ending}
    (hchain : Chain bindings body left cursor chain ending) :
    cursor.Continues (restAfter cursor chain) := by
  induction hchain with
  | full => exact .refl _
  | refused => exact .refl _
  | failed => exact .refl _
  | halted => exact .refl _
  | idle hreply => exact h.fits hS ((repliesAlone_iff h hS).mp hreply).2
  | link _ hreply _ _ ih =>
    have hc : Window.Continues _ _ := h.fits hS ((repliesAlone_iff h hS).mp hreply).2
    exact hc.trans ih

/-! ## Idle matches under a bound -/

include h hS in
/-- Where a match takes nothing, the next one is the same. -/
theorem Chain.length_of_idle_reply {bound : Nat} {nodes : List Node} {chain : List Match}
    {ending : Ending} (hchain : Chain bindings body (some bound) cursor chain ending)
    (hidle : body.RepliesAlone bindings cursor (.ok (.ok (cursor, nodes)))) :
    chain.length = bound := by
  have hsettles := ((repliesAlone_iff h hS).mp hidle).2
  induction bound generalizing chain with
  | zero =>
    cases hchain with
    | full => rfl
    | _ => contradiction
  | succ bound ih =>
    cases hchain with
    | refused _ hreply => cases hsettles.unique ((repliesAlone_iff h hS).mp hreply).2
    | failed _ hreply => cases hsettles.unique ((repliesAlone_iff h hS).mp hreply).2
    | halted _ hreply => cases hsettles.unique ((repliesAlone_iff h hS).mp hreply).2
    | @link _ _ link chain _ _ hreply _ hchain =>
      have heq := hsettles.unique ((repliesAlone_iff h hS).mp hreply).2
      simp only [Except.ok.injEq, Prod.mk.injEq] at heq
      rw [← heq.1] at hchain
      rw [List.length_cons, ih hchain]

include h hS in
/-- With a bound, a chain in which some match takes nothing has as many matches as there may be. -/
theorem Chain.length_of_idle {bound : Nat} {before after : List Match} {link : Match}
    {ending : Ending}
    (hchain : Chain bindings body (some bound) cursor (before ++ link :: after) ending)
    (hidle : link.rest.start = (restAfter cursor before).start) :
    (before ++ link :: after).length = bound := by
  induction before generalizing bound cursor with
  | nil =>
    obtain - | - | - | - | - | ⟨hleft, hreply, -, hchain⟩ := hchain
    have hc : cursor.Continues link.rest := h.fits hS ((repliesAlone_iff h hS).mp hreply).2
    have hsame := hc.eq_of_start hidle
    rw [hsame] at hreply hchain
    have hlength : after.length = bound - 1 := hchain.length_of_idle_reply h hS hreply
    have hbound : bound ≠ 0 := fun heq => hleft (congrArg some heq)
    rw [List.nil_append, List.length_cons]
    omega
  | cons first before ih =>
    obtain - | - | - | - | - | ⟨hleft, hreply, -, hchain⟩ := hchain
    have hlength : (before ++ link :: after).length = bound - 1 := ih hchain hidle
    have hbound : bound ≠ 0 := fun heq => hleft (congrArg some heq)
    rw [List.cons_append, List.length_cons]
    omega

theorem Chain.reply_ne_outOfFuel {left : Option Nat} {chain : List Match} {ending : Ending}
    (hchain : Chain bindings body left cursor chain ending) (links : List Match) :
    ending.reply min factory input links ≠ .error .outOfFuel := by
  have haccepted : ∀ rest nodes, accepted factory input rest nodes ≠ .error .outOfFuel := by
    intro rest nodes
    rw [accepted]
    cases Factory.createWith factory (input.taken rest) nodes <;> nofun
  have hcounted : (if links.length < min then rejected min input links.length
      else accepted factory input (restAfter input links) (links.flatMap (·.nodes))) ≠
      .error .outOfFuel := by
    split
    · nofun
    · exact haccepted _ _
  induction hchain with
  | full => exact hcounted
  | refused => exact hcounted
  | failed => nofun
  | halted _ hreply => exact error_ne_outOfFuel hreply.1
  | idle => exact haccepted _ _
  | link _ _ _ _ ih => exact ih

include h hS in
/-- The plan of a repetition settles with the reply for its chain. -/
theorem Chain.settles_reply {id : ConsumerId} {chain : List Match} {ending : Ending}
    (hchain : Chain bindings body max input chain ending)
    (hturns : Suffices max (max.getD (input.length + 1)) input)
    (hcount : CanCount max input (max.getD (input.length + 1)) 0 input) :
    Settles bindings
      ((Grammar.memoized id (.repetition min max body factory)).plan bindings input)
      (ending.reply min factory input chain) := by
  have hloop : ∀ {r}, Settles bindings
      (ending.plan min factory input (restAfter input chain) chain.length
        (chain.flatMap (·.nodes))) r →
      Settles bindings ((Production.repetition min max body factory).plan input) r := fun hr =>
    hchain.settles h hS hturns .rfl hcount (.refl input) (by rwa [Nat.zero_add, List.nil_append])
  obtain ⟨made, hmade, hend⟩ | ⟨e, hhalt, heq⟩ :=
    settles_andThen.mp (ending.settles_reply (hchain.continues h hS))
  · exact (hloop hmade).andThen hend
  · rw [heq]
    exact (hloop hhalt).andThen_halt _

end Looping

/-- **A repetition takes exactly the maximal chain.**  Let members of a repertoire have filled the
table of `s` from the text of `input`.  Then, for every chain of matches of its body that is as long
as it may be, a repetition answers what the chain says, and nothing else: the error that ended the
chain if it is not recoverable; one node of all nodes of the chain, with the rest behind the last
match, if there are enough matches or the last one takes nothing and there is no bound; and else a
mismatch at the start, with nothing made.  With a bound, a chain in which a match takes nothing has
as many matches as there may be.

There is such a chain if the repetition answers at all, and if its body replies wherever it is
asked. -/
theorem repetition_answers_iff {env : Environment} {S : Grammar → Prop}
    (h : Repertoire env.bindings S) {id : ConsumerId} {min : Nat} {max : Option Nat}
    {body : Grammar} {factory : Option Factory}
    (hg : S (.memoized id (.repetition min max body factory))) {input : Window}
    (hsize : input.buffer.size + 1 < positionBound)
    (hmax : ∀ bound, max = some bound → bound < positionBound) {s : Session}
    (hs : s.Reached env S input.buffer) (parent : NodeBuilder) :
    (∀ chain ending, Chain env.bindings body max input chain ending →
      (∀ r, (Grammar.memoized id (.repetition min max body factory)).Answers env input parent s r ↔
        r = (ending.reply min factory input chain).map (Reply.outcome parent)) ∧
      ∀ bound before link after, max = some bound → chain = before ++ link :: after →
        link.rest.start = (restAfter input before).start → chain.length = bound) ∧
    ((∃ r, (Grammar.memoized id (.repetition min max body factory)).Answers env input parent s r) →
      ∃ chain ending, Chain env.bindings body max input chain ending) ∧
    ((∀ w, input.Continues w → ∃ r, body.RepliesAlone env.bindings w r) →
      ∃ chain ending, Chain env.bindings body max input chain ending) := by
  have hS : S body := h.closed _ _ hg (.inl (.head _))
  have hturns : Suffices max (max.getD (input.length + 1)) input := by
    cases max with
    | some bound => rfl
    | none => exact Nat.lt_succ_self _
  have hcount : CanCount max input (max.getD (input.length + 1)) 0 input := by
    cases hbound : max with
    | some bound => exact ⟨Nat.le_of_eq (Nat.zero_add _), hmax bound hbound⟩
    | none => exact ⟨Nat.le_refl _, hsize⟩
  have hv := h.valid_of_reached hs
  refine ⟨fun chain ending hchain => ⟨fun r => ?_, ?_⟩, ?_, fun hbody =>
    exists_chain h hS hbody hturns (.refl input)⟩
  · have hsettles : Settles env.bindings
        ((Grammar.memoized id (.repetition min max body factory)).plan env.bindings input)
        (ending.reply min factory input chain) := hchain.settles_reply h hS hturns hcount
    rw [h.answers_iff_settles hg rfl hv]
    constructor
    · rintro ⟨r', rfl, -, hr'⟩
      rw [hr'.unique hsettles]
    · rintro rfl
      exact ⟨_, rfl, hchain.reply_ne_outOfFuel chain, hsettles⟩
  · rintro bound before link after rfl rfl hidle
    exact hchain.length_of_idle h hS hidle
  · rintro ⟨r, hr⟩
    obtain ⟨r', -, hne, hsettles⟩ := (h.answers_iff_settles hg rfl hv).mp hr
    obtain ⟨made, hmade, -⟩ | ⟨e, hhalt, rfl⟩ := settles_andThen.mp hsettles
    · exact exists_chain_of_settles h hS hturns .rfl hcount (.refl input) hmade (ok_ne_outOfFuel _)
    · exact exists_chain_of_settles h hS hturns .rfl hcount (.refl input) hhalt
        (error_ne_outOfFuel hne)

/-- At least two letters, in a text that goes on with another one, after they were looked for behind
the first one and not found: there are two matches, the third one is refused, and the other letter
is left. -/
theorem letters_repetition_answers_iff :
    let letter : Grammar := .exact "a" none
    let letters : Grammar := .memoized ⟨1⟩ (.repetition 2 none letter none)
    let env : Environment := ⟨[], true⟩
    let w := Window.ofText "aab"
    let behind (n : Fin 3) : Window := ⟨w.buffer, n, 3, Nat.le_of_lt n.isLt, by decide⟩
    let a (n : Nat) : Node := ⟨some ⟨n, n + 1⟩, some "a", none, []⟩
    let s := ((letters.consume env 9 (behind 1) .empty).exec {}).2
    Repertoire env.bindings (· ∈ letters.subgrammars) ∧ letters ∈ letters.subgrammars ∧
      w.buffer.size + 1 < positionBound ∧ s.Reached env (· ∈ letters.subgrammars) w.buffer ∧
      Chain env.bindings letter none w [⟨behind 1, [a 0]⟩, ⟨behind 2, [a 1]⟩] .refused ∧
      ∀ r, letters.Answers env w .empty s r ↔
        r = .ok ⟨.ok (behind 2),
          NodeBuilder.empty.push ⟨some ⟨0, 2⟩, none, none, [a 0, a 1]⟩⟩ := by
  intro letter letters env w behind a s
  have hrep : Repertoire env.bindings (· ∈ letters.subgrammars) :=
    .of_nodup (by decide) (by decide)
  have hg : letters ∈ letters.subgrammars := Grammar.self_mem_subgrammars letters
  have hsize : w.buffer.size + 1 < positionBound := by decide
  have hbound : ∀ bound, none = some bound → bound < positionBound := nofun
  have hs : s.Reached env (· ∈ letters.subgrammars) w.buffer :=
    .consumed 9 .empty (.fresh rfl) hg rfl
  have hchain : Chain env.bindings letter none w [⟨behind 1, [a 0]⟩, ⟨behind 2, [a 1]⟩]
      .refused := by
    refine .link nofun ⟨ok_ne_outOfFuel _, 1, by rfl⟩ (fun _ => by decide) ?_
    refine .link nofun ⟨ok_ne_outOfFuel _, 1, by rfl⟩ (fun _ => by decide) ?_
    exact .refused nofun ⟨ok_ne_outOfFuel _, 1, by rfl⟩ rfl
  refine ⟨hrep, hg, hsize, hs, hchain, ?_⟩
  exact ((repetition_answers_iff hrep hg hsize hbound hs .empty).1 _ _ hchain).1

end Repetition
end Packrat
