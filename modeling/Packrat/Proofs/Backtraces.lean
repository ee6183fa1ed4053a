import Packrat.Proofs.MemoTransparency
import Packrat.Proofs.Yielding

/-! # The context of an error names the frames it came through

An error is raised by one consumer and handed on by those around it, up to the call that was made
first.  A choice and a repetition hand no recoverable error on: they try the next branch or stop,
and if that does not help they raise an error of their own.  So each call that fails either raises
its error or has taken over the error of exactly one call of its own (`Plan.HandsOn.cases`), and the
calls that an error came through are one list, from the outermost to the one that raised it
(`Backtrace`).

On the way out a recoverable error takes the names of groups and sequences into its context.  A
requirement makes it the cause of a fatal error, which begins with the context of its cause and only
groups add their names to (`Grammar.passOn`).  The context therefore spells out the backtrace
(`Tells`), and nothing of what was discarded is in it.

All of this is said of plans, which know of no table of remembered results.  An error that is
replayed from the table is the one that the plan settles with, so that its context names the frames
of the calls around the replay (`context_names_frames`).
-/
namespace Packrat

/-! ## What consumers do with the errors of their parts -/

/-- Whether the production raises an error of its own when all that it tried has failed. -/
def Production.givesUp : Production → Bool
  | choice .. => true
  | repetition .. => true
  | _ => false

namespace Grammar

/-- Whether the consumer goes on after a recoverable error of a part. -/
def givesUp : Grammar → Bool
  | memoized _ production => production.givesUp
  | _ => false

/-- Whether the consumer raises recoverable errors: it looks at the text itself, or gives up. -/
def isSource : Grammar → Bool
  | exact .. => true
  | charRun .. => true
  | endOfInput => true
  | g => g.givesUp

/-- Whether the consumer drops an error of a part. -/
def discards (g : Grammar) (e : ParseError) : Bool := g.givesUp && e.isRecoverable

/-- The error that the consumer makes of one that it does not drop. -/
def passOn : Grammar → ParseError → ParseError
  | require _ => .escalate
  | group name _ => .withContext name
  | memoized _ (.sequence ..) => .inSequence
  | _ => id

/-- The names that the consumer puts in front of the context of a recoverable error. -/
def names : Grammar → List String
  | group name _ => [name]
  | memoized _ (.sequence ..) => ["Sequence failed"]
  | _ => []

/-- The errors that the consumer may raise itself. -/
inductive Originates (g : Grammar) : ParseError → Prop
  | mismatch (message : String) (position : Nat) :
      g.isSource = true → Originates g (.mismatch message position none)
  | noAlternative (position : Nat) :
      g.isSource = true → Originates g (.noAlternative position none)
  | inconsistent (message : String) (position : Nat) :
      Originates g (.inconsistent message position)

end Grammar

/-! ## Contexts that are names -/

namespace ParseError

/-- The context in which `names` are written, the outermost first. -/
def contextOf (names : List String) : Option String :=
  if names = [] then none else some (" -> ".intercalate names)

theorem contextOf_toList (context : Option String) : contextOf context.toList = context := by
  cases context with
  | none => rfl
  | some context => exact congrArg some (String.intercalate_singleton ..)

theorem chain_contextOf (name : String) (names : List String) :
    chain name (contextOf names) = contextOf (name :: names) := by
  cases names with
  | nil => exact congrArg some (String.intercalate_singleton ..).symm
  | cons first rest =>
    rw [contextOf, contextOf, if_neg (List.cons_ne_nil _ _), if_neg (List.cons_ne_nil _ _), chain,
      String.intercalate_cons_cons]

theorem foldr_chain_contextOf (outer inner : List String) :
    outer.foldr chain (contextOf inner) = contextOf (outer ++ inner) := by
  induction outer with
  | nil => rfl
  | cons name outer ih => rw [List.foldr_cons, ih, chain_contextOf, List.cons_append]

/-- The names of the frames stand in front of the context. -/
theorem context_within {e : ParseError} (he : e.isRecoverable = true) (names : List String) :
    (e.within names).context = names.foldr chain e.context := by
  induction names with
  | nil => rfl
  | cons name names ih =>
    have hinner : (e.within names).isRecoverable = true := by rwa [isRecoverable_within]
    rw [List.foldr_cons, ← ih]
    exact context_withContext name hinner

theorem escalate_of_isRecoverable {e : ParseError} (he : e.isRecoverable = true) :
    e.escalate = .fatal e.message e.position e.context (some e) :=
  if_pos he

end ParseError

namespace Grammar

/-- A recoverable error leaves a consumer under its names, unless the consumer commits itself. -/
theorem passOn_of_isRecoverable (g : Grammar) {e : ParseError} (he : e.isRecoverable = true) :
    (∃ body, g = .require body) ∨ g.passOn e = e.within g.names := by
  cases g with
  | require body => exact .inl ⟨body, rfl⟩
  | memoized id production =>
    cases production with
    | sequence parts factory => exact .inr (if_pos he)
    | _ => exact .inr rfl
  | _ => exact .inr rfl

/-- Only groups put their names in front of the context of any other error. -/
theorem passOn_of_not_isRecoverable (g : Grammar) {e : ParseError} (he : e.isRecoverable = false) :
    g.passOn e = e.within g.frames := by
  cases g with
  | require body => exact ParseError.escalate_of_not_isRecoverable he
  | memoized id production =>
    cases production with
    | sequence parts factory => exact ParseError.inSequence_of_not_isRecoverable he
    | _ => rfl
  | _ => rfl

end Grammar

/-! ## Plans that hand errors on -/

/-- **Handing errors on.**  An error that is not dropped ends the plan at once, and the plan is done
with what `passOn` makes of it.  Besides these, the plan is done with errors that `own` allows. -/
def Plan.HandsOn {α : Type} (discards : ParseError → Bool) (passOn : ParseError → ParseError)
    (own : ParseError → Prop) : Plan (Except ParseError α) → Prop
  | .done (.ok (.error e)) => own e
  | .done _ => True
  | .ask _ _ next =>
    (∀ e, discards e = false → next (.error e) = .answer (.error (passOn e))) ∧
      ∀ reply, (∀ e, reply = .error e → discards e = true) →
        (next reply).HandsOn discards passOn own

section HandingOn

variable {α β : Type} {discards : ParseError → Bool} {passOn : ParseError → ParseError}
  {own : ParseError → Prop}

namespace Plan

theorem handsOn_check {x : Except Violation (Except ParseError α)}
    (h : ∀ e, x = .ok (.error e) → own e) : (Plan.check x).HandsOn discards passOn own := by
  rcases x with v | e | a
  · trivial
  · exact h e rfl
  · trivial

/-- A question whose errors are all handed on. -/
theorem handsOn_ask {g : Grammar} {w : Window} {next : Reply → Plan (Except ParseError α)}
    (herror : ∀ e, next (.error e) = .answer (.error (passOn e)))
    (hok : ∀ rest nodes, (next (.ok (rest, nodes))).HandsOn (fun _ => false) passOn own) :
    (Plan.ask g w next).HandsOn (fun _ => false) passOn own := by
  refine ⟨fun e _ => herror e, fun reply hreply => ?_⟩
  rcases reply with e | ⟨rest, nodes⟩
  · cases hreply e rfl
  · exact hok rest nodes

/-- A question whose recoverable errors are dropped. -/
theorem handsOn_ask_recovering {g : Grammar} {w : Window}
    {next : Reply → Plan (Except ParseError α)}
    (herror : ∀ e, e.isRecoverable = false → next (.error e) = .answer (.error (passOn e)))
    (hrecovers : ∀ e, e.isRecoverable = true →
      (next (.error e)).HandsOn ParseError.isRecoverable passOn own)
    (hok : ∀ rest nodes,
      (next (.ok (rest, nodes))).HandsOn ParseError.isRecoverable passOn own) :
    (Plan.ask g w next).HandsOn ParseError.isRecoverable passOn own := by
  refine ⟨herror, fun reply hreply => ?_⟩
  rcases reply with e | ⟨rest, nodes⟩
  · exact hrecovers e (hreply e rfl)
  · exact hok rest nodes

theorem HandsOn.andThen {p : Plan (Except ParseError α)}
    {f : Except ParseError α → Plan (Except ParseError β)} (hp : p.HandsOn discards passOn own)
    (herror : ∀ e, f (.error e) = .answer (.error e))
    (hok : ∀ a, (f (.ok a)).HandsOn discards passOn own) :
    (p.andThen f).HandsOn discards passOn own := by
  induction p with
  | done r =>
    rcases r with halt | e | a
    · trivial
    · rw [done_ok_andThen, herror]
      exact hp
    · exact hok a
  | ask g w next ih =>
    refine ⟨fun e he => ?_, fun reply hreply => ih reply (hp.2 reply hreply)⟩
    show (next (.error e)).andThen f = _
    rw [hp.1 e he, answer_andThen, herror]

theorem handsOn_check_andThen {x : Except Violation α} {f : α → Plan (Except ParseError β)}
    (hf : ∀ a, (f a).HandsOn discards passOn own) :
    ((Plan.check x).andThen f).HandsOn discards passOn own := by
  cases x with
  | error v => trivial
  | ok a => exact hf a

end Plan

/-! ## How productions hand errors on -/

namespace Production

variable {factory : Option Factory} {input : Window}

theorem planFinish_handsOn (rest : Window) (nodes : List Node) :
    (planFinish factory input rest nodes).HandsOn discards passOn own := by
  refine Plan.handsOn_check fun e he => ?_
  obtain ⟨attachment, -, he⟩ := bind_eq_ok.mp he
  cases he

theorem planParts_handsOn : ∀ (parts : List Grammar) (cursor : Window) (nodes : List Node),
    (planParts factory input parts cursor nodes).HandsOn (fun _ => false) .inSequence own
  | [], cursor, nodes => planFinish_handsOn cursor nodes
  | _ :: parts, _, nodes =>
    Plan.handsOn_ask (fun _ => rfl) fun rest more => planParts_handsOn parts rest (nodes ++ more)

theorem planBranches_handsOn (hown : own (.noAlternative input.start none)) :
    ∀ branches : List Grammar,
      (planBranches factory input branches).HandsOn ParseError.isRecoverable id own
  | [] => hown
  | _ :: branches =>
    Plan.handsOn_ask_recovering (fun _ he => if_neg (Bool.eq_false_iff.mp he))
      (fun _ he => by
        dsimp only
        rw [if_pos he]
        exact planBranches_handsOn hown branches)
      fun rest nodes => planFinish_handsOn rest nodes

theorem planFinishRepetition_handsOn (hown : ∀ message, own (.mismatch message input.start none))
    (min count : Nat) (cursor : Window) (nodes : List Node) :
    (planFinishRepetition min factory input cursor count nodes).HandsOn discards passOn own := by
  rw [planFinishRepetition]
  split
  · exact hown _
  · exact planFinish_handsOn cursor nodes

theorem planMatches_handsOn (hown : ∀ message, own (.mismatch message input.start none))
    {min : Nat} {max : Option Nat} {body : Grammar} :
    ∀ (left count : Nat) (cursor : Window) (nodes : List Node),
      (planMatches min max body factory input left count cursor nodes).HandsOn
        ParseError.isRecoverable id own
  | 0, count, cursor, nodes => by
    rw [planMatches]
    split
    · exact planFinishRepetition_handsOn hown min count cursor nodes
    · trivial
  | left + 1, count, cursor, nodes => by
    refine Plan.handsOn_ask_recovering (fun e he => if_neg (Bool.eq_false_iff.mp he))
      (fun e he => ?_) fun rest more => ?_
    · dsimp only
      rw [if_pos he]
      exact planFinishRepetition_handsOn hown min count cursor nodes
    · refine Plan.handsOn_check_andThen fun count' => ?_
      split
      · exact planFinishRepetition_handsOn hown min _ rest _
      · exact planMatches_handsOn hown left count' rest _

end Production

end HandingOn

namespace Grammar

theorem leafReply_ne_error {input : Window} {stop : Nat} {value : String}
    {factory : Option Factory} (e : ParseError) :
    leafReply input stop value factory ≠ .ok (.error e) := by
  intro h
  rw [leafReply] at h
  obtain ⟨rest, -, h⟩ := bind_eq_ok.mp h
  obtain ⟨attachment, -, h⟩ := bind_eq_ok.mp h
  cases h

theorem exactReply_originates {token : String} {factory : Option Factory} {input : Window}
    {e : ParseError} (h : exactReply token factory input = .ok (.error e)) :
    (Grammar.exact token factory).Originates e := by
  rw [exactReply] at h
  split at h
  · obtain ⟨stop, -, h⟩ := bind_eq_ok.mp h
    exact absurd h (leafReply_ne_error e)
  · cases h
    exact .mismatch _ _ rfl

theorem charRunReply_originates {min : Nat} {max : Option Nat} {cls : CharClass}
    {factory : Option Factory} {input : Window} {e : ParseError}
    (h : charRunReply min max cls factory input = .ok (.error e)) :
    (Grammar.charRun min max cls factory).Originates e := by
  rw [charRunReply] at h
  split at h
  · cases h
    exact .mismatch _ _ rfl
  · obtain ⟨text, -, h⟩ := bind_eq_ok.mp h
    obtain ⟨stop, -, h⟩ := bind_eq_ok.mp h
    exact absurd h (leafReply_ne_error e)

theorem replacedReply_originates {translator : Translator} {input rest : Window}
    {nodes : List Node} {g : Grammar} {e : ParseError}
    (h : replacedReply translator input rest nodes = .ok (.error e)) : g.Originates e := by
  match nodes with
  | [node] =>
    rw [replacedReply] at h
    split at h
    all_goals
      obtain ⟨text, -, h⟩ := bind_eq_ok.mp h
      cases h
  | [] | _ :: _ :: _ =>
    cases h
    exact .inconsistent _ _

theorem endReply_originates {input : Window} {e : ParseError}
    (h : endReply input = .error e) : Grammar.endOfInput.Originates e := by
  rw [endReply] at h
  split at h
  · cases h
  · cases h
    exact .mismatch _ _ rfl

end Grammar

/-- How a production hands errors on, as part of the consumer that memoizes it. -/
theorem Production.plan_handsOn (id : ConsumerId) (production : Production) (input : Window) :
    (production.plan input).HandsOn (Grammar.memoized id production).discards
      (Grammar.memoized id production).passOn (Grammar.memoized id production).Originates := by
  cases production with
  | sequence parts factory => exact planParts_handsOn parts input []
  | choice branches factory => exact planBranches_handsOn (.noAlternative _ rfl) branches
  | repetition min max body factory =>
    exact planMatches_handsOn (fun _ => .mismatch _ _ rfl) _ 0 input []
  | lift body factory =>
    exact Plan.handsOn_ask (fun _ => rfl) fun rest nodes => planFinish_handsOn rest nodes
  | join joint body factory =>
    refine Plan.handsOn_ask (fun _ => rfl) fun rest nodes => Plan.handsOn_check fun e he => ?_
    obtain ⟨attachment, -, he⟩ := bind_eq_ok.mp he
    cases he
  | preserve body factory =>
    refine Plan.handsOn_ask (fun _ => rfl) fun rest nodes => Plan.handsOn_check fun e he => ?_
    obtain ⟨attachment, -, he⟩ := bind_eq_ok.mp he
    cases he

/-- **Every combinator hands errors on**, apart from those it drops and those it raises itself. -/
theorem Grammar.plan_handsOn (bindings : Bindings) {g : Grammar} (hg : g.isCombinator = true)
    (input : Window) : (g.plan bindings input).HandsOn g.discards g.passOn g.Originates := by
  cases g with
  | exact token factory => exact Plan.handsOn_check fun _ => exactReply_originates
  | charRun min max cls factory => exact Plan.handsOn_check fun _ => charRunReply_originates
  | endOfInput =>
    rw [plan]
    rcases hreply : endReply input with e | reply
    · exact endReply_originates hreply
    · trivial
  | skip body => exact Plan.handsOn_ask (fun _ => rfl) fun _ _ => trivial
  | require body => exact Plan.handsOn_ask (fun _ => rfl) fun _ _ => trivial
  | group name body => exact Plan.handsOn_ask (fun _ => rfl) fun _ _ => trivial
  | replace translator body =>
    exact Plan.handsOn_ask (fun _ => rfl) fun rest nodes =>
      Plan.handsOn_check fun _ => replacedReply_originates
  | reference name =>
    rw [plan]
    split
    · exact Plan.handsOn_ask (fun _ => rfl) fun _ _ => trivial
    · exact .inconsistent _ _
  | memoized id production =>
    refine (production.plan_handsOn id input).andThen (fun _ => rfl) fun finished => ?_
    refine Plan.handsOn_check fun e he => ?_
    obtain ⟨nodes, -, he⟩ := map_eq_ok.mp he
    cases he
  | windowed size body =>
    refine Plan.handsOn_check_andThen fun inner => ?_
    refine Plan.handsOn_ask (fun _ => rfl) fun rest nodes => Plan.handsOn_check fun e he => ?_
    obtain ⟨rest', -, he⟩ := map_eq_ok.mp he
    cases he
  | counted | once | fail => cases hg

/-! ## The calls that an error came through -/

/-- A consumer and the window it is called for. -/
abbrev Call := Grammar × Window

/-- The call fails with `e`. -/
def Fails (bindings : Bindings) (x : Call) (e : ParseError) : Prop :=
  Settles bindings (x.1.plan bindings x.2) (.ok (.error e))

/-- The call `x` takes the error of its call `y` over: it makes that call, and does not drop the
error. -/
def TakesOver (bindings : Bindings) (x y : Call) : Prop :=
  Calls bindings x y ∧ ∃ e, Fails bindings y e ∧ x.1.discards e = false

/-- **The calls that an error came through**, from the one made first to the one that raised the
error and took over none. -/
inductive Backtrace (bindings : Bindings) : Call → List Call → Prop
  | raised {x : Call} {e : ParseError} :
      Fails bindings x e → (∀ y, ¬ TakesOver bindings x y) → Backtrace bindings x [x]
  | passed {x y : Call} {calls : List Call} :
      TakesOver bindings x y → Backtrace bindings y calls → Backtrace bindings x (x :: calls)

/-- The calls account for a recoverable error: the last of them raised it, none of the others gives
up, and the context is made of their names. -/
def Tells (calls : List Call) (e : ParseError) : Prop :=
  ∃ outer raiser, calls = outer ++ [raiser] ∧ raiser.1.isSource = true ∧
    (∀ x ∈ outer, x.1.givesUp = false) ∧
    e.context = ParseError.contextOf (outer.flatMap (·.1.names))

/-- The calls account for a fatal error with the context and the cause given: one of them is a
requirement, those behind it account for the cause, and the groups before it stand in front of the
context that the cause has. -/
def TellsCommitment (calls : List Call) (context : Option String) (cause : Option ParseError) :
    Prop :=
  ∃ outer body w inner c, calls = outer ++ (.require body, w) :: inner ∧ cause = some c ∧
    c.isRecoverable = true ∧ Tells inner c ∧
    context = ParseError.contextOf (outer.flatMap (·.1.frames) ++ c.context.toList)

section Tracing

variable {bindings : Bindings}

theorem Fails.unique {x : Call} {e e' : ParseError} (h : Fails bindings x e)
    (h' : Fails bindings x e') : e = e' :=
  Except.error.inj (Except.ok.inj (Settles.unique h h'))

/-- The plan asks for the call `y`, which fails with an error that is not dropped. -/
def Plan.TakesOver {α : Type} (bindings : Bindings) (discards : ParseError → Bool) (p : Plan α)
    (y : Call) : Prop :=
  Asks bindings p y.1 y.2 ∧ ∃ e, Fails bindings y e ∧ discards e = false

/-- What a question with a known reply takes over: the error that is the reply, or what the plan
takes over behind it. -/
theorem Plan.takesOver_ask {α : Type} {discards : ParseError → Bool} {g : Grammar} {w : Window}
    {next : Reply → Plan α} {reply : Reply}
    (hreply : Settles bindings (g.plan bindings w) (.ok reply)) {z : Call} :
    (Plan.ask g w next).TakesOver bindings discards z ↔
      (z = (g, w) ∧ ∃ e, reply = .error e ∧ discards e = false) ∨
        (next reply).TakesOver bindings discards z := by
  constructor
  · rintro ⟨hz, e, hfails, hkept⟩
    obtain ⟨hg, hw⟩ | ⟨reply', hreply', hlater⟩ := asks_ask.mp hz
    · obtain rfl : z = (g, w) := Prod.ext hg hw
      exact .inl ⟨rfl, e, Except.ok.inj (hreply.unique hfails), hkept⟩
    · obtain rfl := Except.ok.inj (hreply.unique hreply')
      exact .inr ⟨hlater, e, hfails, hkept⟩
  · rintro (⟨rfl, e, rfl, hkept⟩ | ⟨hz, hfails⟩)
    · exact ⟨.here, e, hreply, hkept⟩
    · exact ⟨.later hreply hz, hfails⟩

/-- **Where the error of a plan comes from.**  Either it is the error of the only call that the plan
takes an error over from, handed on, or the plan takes none over and raises its own. -/
theorem Plan.HandsOn.cases {α : Type} {discards : ParseError → Bool}
    {passOn : ParseError → ParseError} {own : ParseError → Prop} {p : Plan (Except ParseError α)}
    (hp : p.HandsOn discards passOn own) {e : ParseError}
    (hs : Settles bindings p (.ok (.error e))) :
    (∃ y e', p.TakesOver bindings discards y ∧ Fails bindings y e' ∧ discards e' = false ∧
      e = passOn e' ∧ ∀ z, p.TakesOver bindings discards z → z = y) ∨
    own e ∧ ∀ z, ¬ p.TakesOver bindings discards z := by
  induction p with
  | done r =>
    obtain rfl := settles_done.mp hs
    exact .inr ⟨hp, fun z hz => not_asks_done hz.1⟩
  | ask g w next ih =>
    obtain ⟨reply, hreply, hnext⟩ | ⟨halt, -, hr⟩ := settles_ask.mp hs
    · simp only [Plan.takesOver_ask hreply]
      by_cases hkept : ∃ e', reply = .error e' ∧ discards e' = false
      · -- The plan is over: there are no further questions.
        obtain ⟨e', rfl, hkept⟩ := hkept
        rw [hp.1 e' hkept] at hnext ⊢
        obtain rfl := Except.error.inj (Except.ok.inj (settles_answer.mp hnext))
        refine .inl ⟨(g, w), e', .inl ⟨rfl, e', rfl, hkept⟩, hreply, hkept, rfl, ?_⟩
        rintro z (⟨rfl, -⟩ | hz)
        · rfl
        · exact absurd hz.1 not_asks_done
      · -- The reply is no error, or one that is dropped: what comes behind it decides.
        have hdropped (e' : ParseError) (heq : reply = .error e') : discards e' = true :=
          (Bool.not_eq_false _).mp fun h => hkept ⟨e', heq, h⟩
        simpa only [hkept, and_false, false_or] using ih reply (hp.2 reply hdropped) hnext
    · cases hr

/-- Where the error of a call comes from. -/
theorem Fails.cases {x : Call} (hx : x.1.isCombinator = true) {e : ParseError}
    (h : Fails bindings x e) :
    (∃ y e', TakesOver bindings x y ∧ Fails bindings y e' ∧ x.1.discards e' = false ∧
      e = x.1.passOn e' ∧ ∀ z, TakesOver bindings x z → z = y) ∨
    x.1.Originates e ∧ ∀ z, ¬ TakesOver bindings x z :=
  (x.1.plan_handsOn bindings hx x.2).cases h

/-! ## What the calls tell of the error -/

variable {x : Call} {e : ParseError}

/-- The call that raises an error accounts for it. -/
theorem Grammar.Originates.tells (h : x.1.Originates e) (he : e.isRecoverable = true) :
    Tells [x] e := by
  cases h with
  | mismatch _ _ hsource => exact ⟨[], x, rfl, hsource, nofun, rfl⟩
  | noAlternative _ hsource => exact ⟨[], x, rfl, hsource, nofun, rfl⟩
  | inconsistent => cases he

/-- One more call around a recoverable error that stays one. -/
theorem Tells.around {calls : List Call} (h : Tells calls e) (hkept : x.1.discards e = false)
    (he : e.isRecoverable = true) (hpass : x.1.passOn e = e.within x.1.names) :
    Tells (x :: calls) (x.1.passOn e) := by
  obtain ⟨outer, raiser, rfl, hsource, hgoes, hcontext⟩ := h
  refine ⟨x :: outer, raiser, rfl, hsource, ?_, ?_⟩
  · rw [Grammar.discards, he, Bool.and_true] at hkept
    exact List.forall_mem_cons.mpr ⟨hkept, hgoes⟩
  · rw [hpass, ParseError.context_within he, hcontext, ParseError.foldr_chain_contextOf,
      List.flatMap_cons]

/-- A requirement around a recoverable error. -/
theorem Tells.commitment {calls : List Call} (h : Tells calls e) (he : e.isRecoverable = true)
    (body : Grammar) (w : Window) :
    TellsCommitment ((.require body, w) :: calls) e.context (some e) :=
  ⟨[], body, w, calls, e, rfl, rfl, he, h, (ParseError.contextOf_toList e.context).symm⟩

/-- One more call around a fatal error. -/
theorem TellsCommitment.around {calls : List Call} {context : Option String}
    {cause : Option ParseError} (h : TellsCommitment calls context cause) (x : Call) :
    TellsCommitment (x :: calls) (x.1.frames.foldr ParseError.chain context) cause := by
  obtain ⟨outer, body, w, inner, c, rfl, rfl, hc, hinner, rfl⟩ := h
  refine ⟨x :: outer, body, w, inner, c, rfl, rfl, hc, hinner, ?_⟩
  rw [ParseError.foldr_chain_contextOf, List.flatMap_cons, List.append_assoc]

/-- The calls account for an error of whatever kind; an inconsistency has no context. -/
structure Accounts (calls : List Call) (e : ParseError) : Prop where
  recoverable : e.isRecoverable = true → Tells calls e
  fatal : ∀ message position context cause, e = .fatal message position context cause →
    TellsCommitment calls context cause

theorem Grammar.Originates.accounts (h : x.1.Originates e) : Accounts [x] e where
  recoverable := h.tells
  fatal := by
    rintro message position context cause rfl
    cases h

/-- What a call hands on is accounted for by one call more. -/
theorem Accounts.around {calls : List Call} (h : Accounts calls e)
    (hkept : x.1.discards e = false) : Accounts (x :: calls) (x.1.passOn e) := by
  cases he : e.isRecoverable with
  | true =>
    obtain ⟨body, hbody⟩ | hpass := x.1.passOn_of_isRecoverable he
    · obtain ⟨g, w⟩ := x
      obtain rfl : g = .require body := hbody
      have hcommits := (h.recoverable he).commitment he body w
      have hpass : (Grammar.require body).passOn e =
          .fatal e.message e.position e.context (some e) :=
        ParseError.escalate_of_isRecoverable he
      refine ⟨fun hrec => ?_, fun message position context cause heq => ?_⟩
      · rw [hpass] at hrec
        cases hrec
      · rw [hpass] at heq
        obtain ⟨-, -, rfl, rfl⟩ := ParseError.fatal.inj heq
        exact hcommits
    · refine ⟨fun _ => (h.recoverable he).around hkept he hpass, ?_⟩
      intro message position context cause heq
      have hrec := ParseError.isRecoverable_within x.1.names e
      rw [← hpass, heq, he] at hrec
      cases hrec
  | false =>
    have hpass := x.1.passOn_of_not_isRecoverable he
    refine ⟨fun hrec => ?_, fun message position context cause heq => ?_⟩
    · rw [hpass, ParseError.isRecoverable_within, he] at hrec
      cases hrec
    · cases e with
      | fatal message' position' context' cause' =>
        rw [hpass, ParseError.within_fatal] at heq
        obtain ⟨-, -, rfl, rfl⟩ := ParseError.fatal.inj heq
        exact (h.fatal _ _ _ _ rfl).around x
      | inconsistent message' position' =>
        rw [hpass, ParseError.within_inconsistent] at heq
        cases heq
      | _ => cases he

end Tracing

/-- **A call that fails has one backtrace, which accounts for its error.** -/
theorem Repertoire.backtrace {bindings : Bindings} {S : Grammar → Prop}
    (h : Repertoire bindings S) {x : Call} (hx : S x.1) {e : ParseError}
    (hfails : Fails bindings x e) :
    ∃ calls, (∀ trace, Backtrace bindings x trace ↔ trace = calls) ∧ Accounts calls e := by
  have hacc : Acc (fun y x => Calls bindings x y) x := Settles.acc hfails
  induction hacc generalizing e with
  | intro x _ ih =>
    obtain ⟨y, e', htakes, hy, hkept, rfl, hone⟩ | ⟨horiginates, hnone⟩ :=
      hfails.cases (h.isCombinator x.1 hx)
    · have hy' : S y.1 := (h.asks_members hx rfl htakes.1).1
      obtain ⟨calls, htrace, haccounts⟩ := ih y htakes.1 hy' hy
      refine ⟨x :: calls, fun trace => ⟨fun hx' => ?_, ?_⟩, haccounts.around hkept⟩
      · cases hx' with
        | raised _ hnone => exact absurd htakes (hnone y)
        | passed hz hrest =>
          obtain rfl := hone _ hz
          rw [(htrace _).mp hrest]
      · rintro rfl
        exact .passed htakes ((htrace calls).mpr rfl)
    · refine ⟨[x], fun trace => ⟨fun hx' => ?_, ?_⟩, horiginates.accounts⟩
      · cases hx' with
        | raised => rfl
        | passed hz _ => exact absurd hz (hnone _)
      · rintro rfl
        exact .raised hfails hnone

/-- **The context of an error names the frames it came through.**  Let members of a repertoire have
filled the table of the session, and let one of them fail.  The calls that its error came through
are one list.  If the error is recoverable, its context is made of the names of the sequences and
groups among them, outermost first, up to the consumer that raised it, which looks at the text
itself or has given up; there is no context if there are no such names.  If it is fatal, a
requirement raised it, and its context is made of the names of the groups around the requirement and
of the context of its cause, which is made of the names in the requirement. -/
theorem context_names_frames {env : Environment} {S : Grammar → Prop}
    (h : Repertoire env.bindings S) {g : Grammar} (hg : S g) {w : Window} {s : Session}
    (hs : s.Reached env S w.buffer) {fuel : Nat} {parent built : NodeBuilder} {e : ParseError}
    (hfails : ((g.consume env fuel w parent).exec s).1 = .ok ⟨.error e, built⟩) :
    ∃ calls, (∀ trace, Backtrace env.bindings (g, w) trace ↔ trace = calls) ∧
      (e.isRecoverable = true → ∃ outer raiser, calls = outer ++ [raiser] ∧
        raiser.1.isSource = true ∧ (∀ x ∈ outer, x.1.givesUp = false) ∧
        e.context = ParseError.contextOf (outer.flatMap (·.1.names))) ∧
      ∀ message position context cause, e = .fatal message position context cause →
        ∃ outer body w' inner c, calls = outer ++ (.require body, w') :: inner ∧
          cause = some c ∧ c.isRecoverable = true ∧ Tells inner c ∧
          context = ParseError.contextOf (outer.flatMap (·.1.frames) ++ c.context.toList) := by
  obtain ⟨r, s', hexec, hsettles, -⟩ :=
    h.consume_exec hg rfl fuel parent (h.valid_of_reached hs)
  rw [hexec] at hfails
  rcases r with halt | e' | ⟨rest, nodes⟩
  · cases hfails
  · cases hfails
    have hx : Fails env.bindings (g, w) e := hsettles.resolve_left nofun
    obtain ⟨calls, htrace, haccounts⟩ := h.backtrace (x := (g, w)) hg hx
    exact ⟨calls, htrace, haccounts.recoverable, haccounts.fatal⟩
  · cases hfails

namespace Retried

/-- Two letters. -/
def letters : Grammar := .memoized ⟨1⟩ (.sequence [.exact "a" none, .exact "b" none] none)

/-- The letters, where they are needed. -/
def second : Grammar := .group "second" letters

/-- The letters, if they are there, and once more, where they must be. -/
def rule : Grammar :=
  .memoized ⟨3⟩ (.sequence
    [.memoized ⟨2⟩ (.repetition 0 (some 1) (.group "first" letters) none),
      .group "outer" (.require second)] none)

theorem repertoire : Repertoire [] (· ∈ rule.subgrammars) := by
  refine .of_subgrammars (by decide) fun id production production' h h' => ?_
  simp only [rule, second, letters, Grammar.subgrammars, Grammar.subgrammarsOf,
    Grammar.subgrammarsAll, List.cons_append, List.nil_append, List.append_nil, List.mem_cons,
    Grammar.memoized.injEq, reduceCtorEq, List.not_mem_nil, or_false] at h h'
  grind

end Retried

/-- The letters fail for the first group, and their error is replayed for the second: the first
group is in no context, nor is the sequence around both in that of the fatal error. -/
theorem context_names_frames_replayed :
    let env : Environment := ⟨[], true⟩
    let w := Window.ofText "ac"
    let s := (((Grammar.group "first" Retried.letters).consume env 9 w .empty).exec {}).2
    let e := ParseError.mismatch "Token mismatch (b)" 1 (some "second -> Sequence failed")
    let e' := ParseError.fatal "Token mismatch (b)" 1 (some "outer -> second -> Sequence failed")
      (some e)
    Repertoire [] (· ∈ Retried.rule.subgrammars) ∧
      s.Reached env (· ∈ Retried.rule.subgrammars) w.buffer ∧
      (∃ fuel, ((Retried.second.consume env fuel w .empty).exec s).1 =
          .ok ⟨.error e, .empty⟩ ∧
        ∃ calls, Backtrace [] (Retried.second, w) calls ∧ Tells calls e) ∧
      ∃ fuel, ((Retried.rule.consume env fuel w .empty).exec s).1 = .ok ⟨.error e', .empty⟩ ∧
        ∃ calls, Backtrace [] (Retried.rule, w) calls ∧
          TellsCommitment calls e'.context (some e) := by
  intro env w s e e'
  have h : Repertoire env.bindings (· ∈ Retried.rule.subgrammars) := Retried.repertoire
  have hs : s.Reached env (· ∈ Retried.rule.subgrammars) w.buffer :=
    .consumed 9 .empty (.fresh rfl)
      (by simp [Retried.rule, Grammar.subgrammars, Grammar.subgrammarsOf, Grammar.subgrammarsAll])
      rfl
  -- Without a table the rules can be run here and now; with one they answer the same.
  have hanswers {g : Grammar} (hg : g ∈ Retried.rule.subgrammars) {o : Outcome}
      (ho : ((g.consume ⟨[], false⟩ 9 w .empty).exec {}).1 = .ok o) :
      g.Answers env w .empty s (.ok o) :=
    (h.answers_iff_plain hs hg rfl .empty {}).mpr ⟨ok_ne_outOfFuel o, 9, ho⟩
  have hsecond : Retried.second ∈ Retried.rule.subgrammars := by
    simp [Retried.rule, Retried.second, Grammar.subgrammars, Grammar.subgrammarsOf,
      Grammar.subgrammarsAll]
  have hrule : Retried.rule ∈ Retried.rule.subgrammars := Grammar.self_mem_subgrammars _
  obtain ⟨-, fuel, hfails⟩ := hanswers hsecond (o := ⟨.error e, .empty⟩) rfl
  obtain ⟨-, fuel', hfails'⟩ := hanswers hrule (o := ⟨.error e', .empty⟩) rfl
  obtain ⟨calls, htrace, hrecoverable, -⟩ := context_names_frames h hsecond hs hfails
  obtain ⟨calls', htrace', -, hfatal⟩ := context_names_frames h hrule hs hfails'
  exact ⟨Retried.repertoire, hs, ⟨fuel, hfails, calls, (htrace calls).mpr rfl, hrecoverable rfl⟩,
    fuel', hfails', calls', (htrace' calls').mpr rfl, hfatal _ _ _ _ rfl⟩

end Packrat
