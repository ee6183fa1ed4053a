import Packrat.Proofs.Appending
import Packrat.Proofs.Commitment
import Packrat.Proofs.Repertoire

/-! # Giving way to errors

A consumer that ends with an error that is not recoverable says so in the log (`raised`).  From
there on nothing may happen but that the consumers around it end with the same error, innermost
first: no consumer starts, nothing is stored, no remark is made.  The only change that the error
undergoes on its way is that the groups among those consumers put their names in front of its
context.  `Unwinds` describes that part of a log, and `Grammar.alarming_consume` says that the log
of each run in which an error is raised ends so, with any nesting of consumers and any memo table.

The argument is about computations.  One is *steady* from a session if no error of that kind comes
up (`Session.Steady`).  Otherwise one comes up in a part, and the computation then has to be done at
once with what it makes of the error (`Yields`).  The rule for one computation after another
(`Yields.bind`) is where backtracking would show: what follows on an error must do nothing.
-/
namespace Packrat

/-! ## What a log shows of an error -/

namespace ParseEvent

/-- Whether a consumer ends with an error that is not recoverable. -/
def isRaise : ParseEvent → Bool
  | raised _ => true
  | _ => false

/-- The key for which something is stored. -/
def storedKey? : ParseEvent → Option MemoKey
  | memoStored key => some key
  | failureStored key => some key
  | _ => none

end ParseEvent

/-- The frames that a consumer puts in front of the context of an error it passes on, even of one
that is not recoverable. -/
def Grammar.frames : Grammar → List String
  | .group name _ => [name]
  | _ => []

namespace ParseError

/-- The error as it leaves the frames `frames`, of which the first is the outermost. -/
def within (frames : List String) (e : ParseError) : ParseError := frames.foldr withContext e

/-- `e.Framed frames e'`: `e'` has the message, the position and the cause of `e`, and `frames`
stand in front of its context.  An inconsistency has no context and stays as it is. -/
inductive Framed (frames : List String) : ParseError → ParseError → Prop
  | fatal (message : String) (position : Nat) (context : Option String)
      (cause : Option ParseError) :
      Framed frames (.fatal message position context cause)
        (.fatal message position (frames.foldr chain context) cause)
  | inconsistent (message : String) (position : Nat) :
      Framed frames (.inconsistent message position) (.inconsistent message position)

theorem within_append (outer inner : List String) (e : ParseError) :
    e.within (outer ++ inner) = (e.within inner).within outer :=
  List.foldr_append

@[simp] theorem isRecoverable_within (frames : List String) (e : ParseError) :
    (e.within frames).isRecoverable = e.isRecoverable := by
  induction frames with
  | nil => rfl
  | cons frame frames ih => exact (isRecoverable_withContext frame _).trans ih

theorem within_fatal (frames : List String) (message : String) (position : Nat)
    (context : Option String) (cause : Option ParseError) :
    (fatal message position context cause).within frames =
      fatal message position (frames.foldr chain context) cause := by
  induction frames with
  | nil => rfl
  | cons frame frames ih => exact congrArg (withContext frame) ih

theorem within_inconsistent (frames : List String) (message : String) (position : Nat) :
    (inconsistent message position).within frames = inconsistent message position := by
  induction frames with
  | nil => rfl
  | cons frame frames ih => exact congrArg (withContext frame) ih

/-- Frames only add to the context of an error that is not recoverable. -/
theorem framed_within {e : ParseError} (he : e.isRecoverable = false) (frames : List String) :
    e.Framed frames (e.within frames) := by
  cases e with
  | fatal message position context cause =>
    rw [within_fatal]
    exact .fatal message position context cause
  | inconsistent message position =>
    rw [within_inconsistent]
    exact .inconsistent message position
  | _ => cases he

theorem escalate_of_not_isRecoverable {e : ParseError} (he : e.isRecoverable = false) :
    e.escalate = e := by
  rw [escalate, he]
  rfl

end ParseError

/-- **How an error leaves a grammar.**  `Unwinds bindings e g frames events`: an error `e`, raised
by `g` or by a consumer that runs in it, leaves `g` through the groups named `frames`, and `events`
are what the log shows of it: the ends of the consumers around the one that raised it, innermost
first, each with the error as it leaves that consumer. -/
inductive Unwinds (bindings : Bindings) (e : ParseError) :
    Grammar → List String → List ParseEvent → Prop
  | origin (g : Grammar) : Unwinds bindings e g [] []
  | around {g h : Grammar} {frames : List String} {events : List ParseEvent} :
      g.Mentions bindings h → Unwinds bindings e h frames events →
      Unwinds bindings e g (g.frames ++ frames)
        (events ++ [.raised (e.within (g.frames ++ frames))])

namespace Unwinds

variable {bindings : Bindings} {e e' : ParseError} {g : Grammar} {frames : List String}
  {events before after : List ParseEvent}

/-- The log shows nothing but ends of consumers. -/
theorem isRaise (h : Unwinds bindings e g frames events) :
    ∀ event ∈ events, event.isRaise = true := by
  induction h with
  | origin g => exact nofun
  | around _ _ ih =>
    intro event hevent
    rcases List.mem_append.mp hevent with hevent | hevent
    · exact ih event hevent
    · rw [List.mem_singleton.mp hevent]
      rfl

/-- The last end is that of the grammar itself. -/
theorem exists_last (h : Unwinds bindings e g frames events) :
    ∃ before, .raised e :: events = before ++ [.raised (e.within frames)] := by
  cases h with
  | origin g => exact ⟨[], rfl⟩
  | @around g h frames events _ _ => exact ⟨.raised e :: events, rfl⟩

/-- From any of the ends on, the error leaves the grammar as it did before. -/
theorem of_append (h : Unwinds bindings e g frames events)
    (hevents : events = before ++ .raised e' :: after) :
    ∃ frames', Unwinds bindings e' g frames' after ∧ e.within frames = e'.within frames' := by
  induction h generalizing after with
  | origin g => simp at hevents
  | @around g h frames events hmentions _ ih =>
    rcases List.eq_nil_or_concat after with rfl | ⟨after, last, rfl⟩
    · -- The end is that of `g` itself.
      obtain ⟨-, hlast⟩ := List.append_inj' hevents rfl
      obtain rfl := ParseEvent.raised.inj (List.cons.inj hlast).1
      exact ⟨[], .origin g, rfl⟩
    · have hsplit : events ++ [.raised (e.within (g.frames ++ frames))] =
          (before ++ .raised e' :: after) ++ [last] := by
        simpa using hevents
      obtain ⟨hinner, hlast⟩ := List.append_inj' hsplit rfl
      obtain ⟨frames', hunwinds, hwithin⟩ := ih hinner
      have hframes : e.within (g.frames ++ frames) = e'.within (g.frames ++ frames') := by
        rw [ParseError.within_append, ParseError.within_append, hwithin]
      refine ⟨g.frames ++ frames', ?_, hframes⟩
      rw [List.concat_eq_append, ← (List.cons.inj hlast).1, hframes]
      exact .around hmentions hunwinds

end Unwinds

/-! ## What is added to a session -/

namespace Session

/-- The log goes on with `events`, which tell of all that is stored on the way, and no error is
stored that is not recoverable. -/
structure Adds (s s' : Session) (events : List ParseEvent) : Prop where
  log_eq : s'.log.toList = s.log.toList ++ events
  stored : ∀ key : MemoKey, s'.memo.entries[key]? ≠ s.memo.entries[key]? →
    ∃ event ∈ events, event.storedKey? = some key
  failed : ∀ (key : MemoKey) (e : ParseError), s'.memo.entries[key]? = some (.failed e) →
    e.isRecoverable = true ∨ s.memo.entries[key]? = some (.failed e)

variable {s s₁ s' : Session} {events more : List ParseEvent} {event : ParseEvent} {key : MemoKey}

theorem Adds.of_memo_eq (hlog : s'.log.toList = s.log.toList ++ events)
    (hmemo : s'.memo.entries = s.memo.entries) : s.Adds s' events where
  log_eq := hlog
  stored _ hne := absurd (congrArg (·[_]?) hmemo) hne
  failed _ _ he := .inr (hmemo ▸ he)

theorem Adds.refl (s : Session) : s.Adds s [] := .of_memo_eq (List.append_nil _).symm rfl

theorem Adds.trans (h : s.Adds s₁ events) (h' : s₁.Adds s' more) : s.Adds s' (events ++ more) where
  log_eq := by rw [h'.log_eq, h.log_eq, List.append_assoc]
  stored := by
    intro key hne
    by_cases hsame : s'.memo.entries[key]? = s₁.memo.entries[key]?
    · obtain ⟨event, hevent, hkey⟩ := h.stored key (hsame ▸ hne)
      exact ⟨event, List.mem_append_left more hevent, hkey⟩
    · obtain ⟨event, hevent, hkey⟩ := h'.stored key hsame
      exact ⟨event, List.mem_append_right events hevent, hkey⟩
  failed := by
    intro key e he
    rcases h'.failed key e he with hrec | he
    · exact .inl hrec
    · exact h.failed key e he

theorem adds_note (s : Session) (event : ParseEvent) : s.Adds (s.note event) [event] :=
  .of_memo_eq Array.toList_push rfl

/-- Something is stored that is no error, or one that is recoverable. -/
theorem adds_store {entry : MemoEntry Node} (hkey : event.storedKey? = some key)
    (hentry : ∀ e, entry = .failed e → e.isRecoverable = true) :
    s.Adds ((s.store key entry).note event) [event] where
  log_eq := Array.toList_push
  stored := by
    intro key' hne
    by_cases hsame : key = key'
    · exact ⟨event, .head _, hsame ▸ hkey⟩
    · refine absurd ?_ hne
      rw [memo_note, store, Std.HashMap.getElem?_insert, if_neg (by simpa using hsame)]
  failed := by
    intro key' e he
    rw [memo_note, store, Std.HashMap.getElem?_insert] at he
    split at he
    · exact .inl (hentry e (Option.some.inj he))
    · exact .inr he

/-- Up to `s'` no error has come up that is not recoverable. -/
def Steady (s s' : Session) : Prop :=
  ∃ events : List ParseEvent, s.Adds s' events ∧ ∀ event ∈ events, event.isRaise = false

/-- Before `s'` an error that is not recoverable has come up, and has left `g` as `e'`. -/
def Unwound (bindings : Bindings) (g : Grammar) (e' : ParseError) (s s' : Session) : Prop :=
  ∃ (before : List ParseEvent) (e : ParseError) (frames : List String) (after : List ParseEvent),
    s.Adds s' (before ++ .raised e :: after) ∧ (∀ event ∈ before, event.isRaise = false) ∧
      e.isRecoverable = false ∧ Unwinds bindings e g frames after ∧ e' = e.within frames

theorem Steady.refl (s : Session) : s.Steady s := ⟨[], .refl s, nofun⟩

theorem Steady.trans (h : s.Steady s₁) (h' : s₁.Steady s') : s.Steady s' := by
  obtain ⟨events, hadds, hcalm⟩ := h
  obtain ⟨more, hadds', hcalm'⟩ := h'
  refine ⟨events ++ more, hadds.trans hadds', fun event hevent => ?_⟩
  rcases List.mem_append.mp hevent with hevent | hevent
  · exact hcalm event hevent
  · exact hcalm' event hevent

theorem Adds.steady (h : s.Adds s' [event]) (hevent : event.isRaise = false) : s.Steady s' := by
  refine ⟨[event], h, fun event' hevent' => ?_⟩
  rw [List.mem_singleton.mp hevent']
  exact hevent

theorem steady_note (s : Session) (event : ParseEvent) (hevent : event.isRaise = false) :
    s.Steady (s.note event) :=
  (s.adds_note event).steady hevent

/-- Finding an entry changes no entry. -/
theorem steady_hit (s : Session) (event : ParseEvent) (hevent : event.isRaise = false) :
    s.Steady (s.hit.note event) := by
  have hadds : s.Adds (s.hit.note event) [event] := .of_memo_eq Array.toList_push rfl
  exact hadds.steady hevent

theorem steady_store (event : ParseEvent) {entry : MemoEntry Node}
    (hkey : event.storedKey? = some key) (hevent : event.isRaise = false)
    (hentry : ∀ e, entry = .failed e → e.isRecoverable = true) :
    s.Steady ((s.store key entry).note event) :=
  (adds_store hkey hentry).steady hevent

variable {bindings : Bindings} {g h : Grammar} {e : ParseError}

theorem Steady.unwound (hs : s.Steady s₁) (hu : s₁.Unwound bindings g e s') :
    s.Unwound bindings g e s' := by
  obtain ⟨events, hadds, hcalm⟩ := hs
  obtain ⟨before, e₀, frames, after, hadds', hcalm', he₀, hunwinds, he⟩ := hu
  refine ⟨events ++ before, e₀, frames, after, ?_, fun event hevent => ?_, he₀, hunwinds, he⟩
  · rw [List.append_assoc]
    exact hadds.trans hadds'
  · rcases List.mem_append.mp hevent with hevent | hevent
    · exact hcalm event hevent
    · exact hcalm' event hevent

theorem Unwound.not_isRecoverable (hu : s.Unwound bindings g e s') : e.isRecoverable = false := by
  obtain ⟨_, e₀, frames, _, -, -, he₀, -, rfl⟩ := hu
  rw [ParseError.isRecoverable_within]
  exact he₀

/-- A consumer raises an error of its own. -/
theorem Steady.raise (hs : s.Steady s') (he : e.isRecoverable = false) (g : Grammar) :
    s.Unwound bindings g e (s'.note (.raised e)) := by
  obtain ⟨events, hadds, hcalm⟩ := hs
  exact ⟨events, e, [], [], hadds.trans (s'.adds_note _), hcalm, he, .origin g, rfl⟩

/-- A consumer passes on the error of a part. -/
theorem Unwound.around (hu : s.Unwound bindings h e s') (hm : g.Mentions bindings h) :
    s.Unwound bindings g (e.within g.frames) (s'.note (.raised (e.within g.frames))) := by
  obtain ⟨before, e₀, frames, after, hadds, hcalm, he₀, hunwinds, rfl⟩ := hu
  rw [← ParseError.within_append]
  refine ⟨before, e₀, g.frames ++ frames, _, ?_, hcalm, he₀, .around hm hunwinds, rfl⟩
  have hadds' := hadds.trans (s'.adds_note (.raised (e₀.within (g.frames ++ frames))))
  rw [List.append_assoc, List.cons_append] at hadds'
  exact hadds'

end Session

/-! ## Computations that give way -/

/-- **A computation gives way to errors that are not recoverable.**  It is steady, or else such an
error has left a part, which is one of those that `asked` holds of, and the computation is done with
what `failed` says of the error. -/
def Yields {α : Type} (bindings : Bindings) (asked : Grammar → Prop)
    (failed : ParseError → α → Prop) (x : Eval α) : Prop :=
  ∀ s : Session, s.Steady (x.exec s).2 ∨
    ∃ g e a, asked g ∧ s.Unwound bindings g e (x.exec s).2 ∧ (x.exec s).1 = .ok a ∧ failed e a

/-- A computation in which no error comes up that is not recoverable. -/
def Steadily {α : Type} (x : Eval α) : Prop := ∀ s : Session, s.Steady (x.exec s).2

section Rules

variable {α β : Type}

theorem steadily_of_exec {x : Eval α} (h : ∀ s, (x.exec s).2 = s) : Steadily x := by
  intro s
  rw [h s]
  exact .refl s

theorem steadily_pure (a : α) : Steadily (pure a : Eval α) := steadily_of_exec fun _ => rfl

theorem steadily_throw (halt : Halt) : Steadily (throw halt : Eval α) :=
  steadily_of_exec fun _ => rfl

theorem steadily_check (x : Except Violation α) : Steadily (Eval.check x) := by
  refine steadily_of_exec fun s => ?_
  rw [Eval.exec_check]

theorem steadily_emit {event : ParseEvent} (h : event.isRaise = false) :
    Steadily (Eval.emit event) :=
  fun s => s.steady_note _ h

/-- A note that neither the log nor the table shows. -/
theorem steadily_modify {f : Session → Session} (hlog : ∀ s, (f s).log = s.log)
    (hmemo : ∀ s, (f s).memo = s.memo) : Steadily (modify f : Eval PUnit) := by
  intro s
  have hadds : s.Adds (f s) [] := by
    refine .of_memo_eq ?_ (congrArg MemoTable.entries (hmemo s))
    rw [hlog, List.append_nil]
  exact ⟨[], hadds, nofun⟩

theorem steadily_ask (key : MemoKey) : Steadily (Eval.onMemo (·.ask key)) := by
  intro s
  rw [Eval.exec_onMemo]
  rcases hentry : s.memo.entries[key]? with _ | ⟨me⟩ | ⟨e⟩
  · rw [MemoTable.ask_of_none hentry]
    exact .refl s
  · rw [MemoTable.ask_of_matched hentry]
    exact s.steady_hit (.memoHit key) rfl
  · rw [MemoTable.ask_of_failed hentry]
    exact s.steady_hit (.memoFailureHit key) rfl

theorem steadily_keep (key : MemoKey) (me : Node) :
    Steadily (Eval.onMemo (·.keep Node.same key me)) := by
  intro s
  rw [Eval.exec_onMemo]
  rcases hentry : s.memo.entries[key]? with _ | entry
  · rw [MemoTable.keep_of_none hentry]
    exact Session.steady_store (.memoStored key) rfl rfl nofun
  · by_cases hsame : ∃ old, entry = .matched old ∧ old.same me = true
    · obtain ⟨old, rfl, hsame⟩ := hsame
      rw [MemoTable.keep_of_same hentry hsame]
      exact .refl s
    · have hne : ∀ old, entry = .matched old → old.same me = false := fun old he =>
        Bool.eq_false_iff.mpr fun hs => hsame ⟨old, he, hs⟩
      rw [MemoTable.keep_of_contradiction hentry hne]
      exact .refl s

/-- Only errors that are recoverable may be stored. -/
theorem steadily_keepFailure (key : MemoKey) {e : ParseError} (he : e.isRecoverable = true) :
    Steadily (Eval.onMemo (·.keepFailure key e)) := by
  intro s
  rw [Eval.exec_onMemo]
  by_cases hold : ∃ old, s.memo.entries[key]? = some (.matched old)
  · obtain ⟨old, hold⟩ := hold
    rw [MemoTable.keepFailure_of_matched hold]
    exact .refl s
  · rw [MemoTable.keepFailure_of_not_matched (not_exists.mp hold)]
    refine Session.steady_store (.failureStored key) rfl rfl fun e' he' => ?_
    rw [← MemoEntry.failed.inj he']
    exact he

theorem Steadily.bind {x : Eval α} {f : α → Eval β} (hx : Steadily x)
    (hf : ∀ a, Steadily (f a)) : Steadily (x >>= f) := by
  intro s
  have hs := hx s
  rw [Eval.exec_bind]
  rcases hexec : x.exec s with ⟨halt | a, s₁⟩
  · rw [hexec] at hs
    exact hs
  · rw [hexec] at hs
    exact hs.trans (hf a s₁)

variable {bindings : Bindings} {asked : Grammar → Prop} {failed : ParseError → α → Prop}
  {passed : ParseError → β → Prop}

theorem Steadily.yields {x : Eval α} (hx : Steadily x) : Yields bindings asked failed x :=
  fun s => .inl (hx s)

/-- **One computation after another.**  If an error that is not recoverable has left a part of the
first one, then the second one must do nothing but pass it on. -/
theorem Yields.bind {x : Eval α} {f : α → Eval β} (hx : Yields bindings asked failed x)
    (hf : ∀ a, Yields bindings asked passed (f a))
    (hstop : ∀ e a, e.isRecoverable = false → failed e a → ∃ b, f a = pure b ∧ passed e b) :
    Yields bindings asked passed (x >>= f) := by
  intro s
  have hs := hx s
  rw [Eval.exec_bind]
  rcases hexec : x.exec s with ⟨halt | a, s₁⟩
  · rw [hexec] at hs
    rcases hs with hs | ⟨_, _, _, -, -, ha, -⟩
    · exact .inl hs
    · cases ha
  · rw [hexec] at hs
    rcases hs with hs | ⟨g, e, a', hg, hu, ha, hfailed⟩
    · rcases hf a s₁ with hs' | ⟨g, e, b, hg, hu, hb, hpassed⟩
      · exact .inl (hs.trans hs')
      · exact .inr ⟨g, e, b, hg, hs.unwound hu, hb, hpassed⟩
    · obtain rfl := Except.ok.inj ha
      obtain ⟨b, hb, hpassed⟩ := hstop e a hu.not_isRecoverable hfailed
      refine .inr ⟨g, e, b, hg, ?_, ?_, hpassed⟩
      · show s.Unwound bindings g e ((f a).exec s₁).2
        rw [hb]
        exact hu
      · show ((f a).exec s₁).1 = .ok b
        rw [hb]
        rfl

theorem Yields.after {x : Eval α} {f : α → Eval β} (hx : Steadily x)
    (hf : ∀ a, Yields bindings asked passed (f a)) : Yields bindings asked passed (x >>= f) := by
  have hnever : Yields bindings asked (fun _ _ => False) x := hx.yields
  exact hnever.bind hf fun _ _ _ => False.elim

end Rules

/-! ## Consumers give way -/

/-- The outcome is the error `e`. -/
def Outcome.IsError (e : ParseError) (o : Outcome) : Prop := o.result = .error e

/-- The parts that a run consumes give way, and one that ends with an error that is not recoverable
has said so in the log. -/
def Alarming (bindings : Bindings) (run : Run) : Prop :=
  ∀ g w parent (s : Session), (s.Steady ((run g w parent).exec s).2 ∧
      ∀ o, ((run g w parent).exec s).1 = .ok o → ¬ Raises o.result) ∨
    ∃ e o, s.Unwound bindings g e ((run g w parent).exec s).2 ∧
      ((run g w parent).exec s).1 = .ok o ∧ o.IsError e

section Consumers

variable {bindings : Bindings} {run : Run} {asked : Grammar → Prop}

theorem steadily_failWith (e : ParseError) (parent : NodeBuilder) : Steadily (failWith e parent) :=
  steadily_pure _

theorem steadily_succeed (rest : Window) (parent : NodeBuilder) : Steadily (succeed rest parent) :=
  steadily_pure _

/-- Running a part. -/
theorem Alarming.yields (hrun : Alarming bindings run) {g : Grammar} (hg : asked g) (w : Window)
    (parent : NodeBuilder) : Yields bindings asked Outcome.IsError (run g w parent) := by
  intro s
  rcases hrun g w parent s with ⟨hs, -⟩ | ⟨e, o, hu, ho, he⟩
  · exact .inl hs
  · exact .inr ⟨g, e, o, hg, hu, ho, he⟩

/-- Going on by a result, with an error passed on as `f` makes it. -/
theorem Yields.bind_error {x : Eval Outcome} {next : Outcome → Eval Outcome}
    {f : ParseError → ParseError} (hx : Yields bindings asked Outcome.IsError x)
    (hnext : ∀ o, Yields bindings asked (fun e o' => o'.IsError (f e)) (next o))
    (hstop : ∀ e b, e.isRecoverable = false → ∃ b', next ⟨.error e, b⟩ = pure ⟨.error (f e), b'⟩) :
    Yields bindings asked (fun e o => o.IsError (f e)) (x >>= next) := by
  refine hx.bind hnext fun e o he ho => ?_
  obtain ⟨result, b⟩ := o
  obtain rfl : result = .error e := ho
  obtain ⟨b', hb'⟩ := hstop e b he
  exact ⟨_, hb', rfl⟩

/-- Running a part and going on by its result. -/
theorem Alarming.yields_bind (hrun : Alarming bindings run) {g : Grammar} (hg : asked g)
    (w : Window) (parent : NodeBuilder) {next : Outcome → Eval Outcome}
    {f : ParseError → ParseError}
    (hnext : ∀ o, Yields bindings asked (fun e o' => o'.IsError (f e)) (next o))
    (hstop : ∀ e b, e.isRecoverable = false → ∃ b', next ⟨.error e, b⟩ = pure ⟨.error (f e), b'⟩) :
    Yields bindings asked (fun e o => o.IsError (f e)) (run g w parent >>= next) :=
  (hrun.yields hg w parent).bind_error hnext hstop

namespace Production

variable {factory : Option Factory} {input : Window}

theorem steadily_attachMatched (factory : Option Factory) (input rest : Window)
    (me : NodeBuilder) : Steadily (attachMatched factory input rest me) := by
  cases factory with
  | none => exact steadily_pure me
  | some f =>
    refine (steadily_check _).bind fun text => ?_
    exact (steadily_check _).bind fun attachment => steadily_pure _

theorem steadily_attachJoined (factory : Option Factory) (text : String) (nodes : List Node)
    (me : NodeBuilder) : Steadily (attachJoined factory text nodes me) := by
  cases factory with
  | none => exact steadily_pure me
  | some f => exact (steadily_check _).bind fun attachment => steadily_pure _

theorem steadily_finish (factory : Option Factory) (input rest : Window) (me : NodeBuilder) :
    Steadily (finish factory input rest me) :=
  (steadily_attachMatched factory input rest me).bind fun _ => steadily_succeed rest _

theorem steadily_finishRepetition (min : Nat) (factory : Option Factory) (input cursor : Window)
    (count : Nat) (me : NodeBuilder) :
    Steadily (finishRepetition min factory input cursor count me) := by
  rw [finishRepetition]
  split
  · exact steadily_failWith _ me
  · exact steadily_finish factory input cursor me

theorem produceParts_yields (hrun : Alarming bindings run) :
    ∀ (parts : List Grammar) (cursor : Window) (me : NodeBuilder), (∀ g ∈ parts, asked g) →
    Yields bindings asked Outcome.IsError (produceParts run factory input parts cursor me)
  | [], cursor, me, _ => (steadily_finish factory input cursor me).yields
  | part :: parts, cursor, me, hasked => by
    refine hrun.yields_bind (f := id) (hasked part (.head _)) cursor me (fun o => ?_)
      fun e b he => ?_
    · rcases o with ⟨e | rest, b⟩
      · exact (steadily_failWith e.inSequence b).yields
      · exact produceParts_yields hrun parts rest b fun g hg => hasked g (.tail _ hg)
    · refine ⟨b, ?_⟩
      show failWith e.inSequence b = _
      rw [ParseError.inSequence_of_not_isRecoverable he]
      rfl

theorem produceBranches_yields (hrun : Alarming bindings run) :
    ∀ (branches : List Grammar) (me : NodeBuilder), (∀ g ∈ branches, asked g) →
    Yields bindings asked Outcome.IsError (produceBranches run factory input branches me)
  | [], me, _ => Yields.after (steadily_emit rfl) fun _ => (steadily_failWith _ me).yields
  | branch :: branches, me, hasked => by
    refine hrun.yields_bind (f := id) (hasked branch (.head _)) input me (fun o => ?_)
      fun e b he => ?_
    · rcases o with ⟨e | rest, b⟩
      · dsimp only
        split
        · refine Yields.after (steadily_emit rfl) fun _ => ?_
          exact produceBranches_yields hrun branches _ fun g hg => hasked g (.tail _ hg)
        · exact (steadily_failWith e b).yields
      · exact (steadily_finish factory input rest b).yields
    · refine ⟨b, ?_⟩
      simp only [he, Bool.false_eq_true, if_false]
      rfl

theorem produceMatches_yields (hrun : Alarming bindings run) (min : Nat) (max : Option Nat)
    {body : Grammar} (hasked : asked body) :
    ∀ (left count : Nat) (cursor : Window) (me : NodeBuilder),
    Yields bindings asked Outcome.IsError
      (produceMatches run min max body factory input left count cursor me)
  | 0, count, cursor, me => by
    rw [produceMatches]
    split
    · exact (steadily_finishRepetition min factory input cursor count me).yields
    · exact (steadily_throw _).yields
  | left + 1, count, cursor, me => by
    refine hrun.yields_bind (f := id) hasked cursor me (fun o => ?_) fun e b he => ?_
    · rcases o with ⟨e | rest, b⟩
      · dsimp only
        split
        · refine Yields.after (steadily_emit rfl) fun _ => ?_
          exact (steadily_finishRepetition min factory input cursor count _).yields
        · exact (steadily_failWith e b).yields
      · refine Yields.after (steadily_check _) fun count' => ?_
        split
        · exact (steadily_finishRepetition min factory input rest _ b).yields
        · exact produceMatches_yields hrun min max hasked left count' rest b
    · refine ⟨b, ?_⟩
      simp only [he, Bool.false_eq_true, if_false]
      rfl

/-- **A production gives way to the errors of its parts.** -/
theorem produce_yields (hrun : Alarming bindings run) (production : Production) (input : Window)
    (me : NodeBuilder) (hasked : ∀ g ∈ production.parts, asked g) :
    Yields bindings asked Outcome.IsError (production.produce run input me) := by
  cases production with
  | sequence parts factory => exact produceParts_yields hrun parts input me hasked
  | choice branches factory => exact produceBranches_yields hrun branches me hasked
  | repetition min max body factory =>
    exact produceMatches_yields hrun min max (hasked body (.head _)) _ 0 input me
  | lift body factory => exact hrun.yields (hasked body (.head _)) input me
  | join joint body factory =>
    refine hrun.yields_bind (f := id) (hasked body (.head _)) input .empty (fun o => ?_)
      fun e b he => ⟨me, rfl⟩
    rcases o with ⟨e | rest, b⟩
    · exact (steadily_failWith e me).yields
    · refine Yields.after (steadily_attachJoined factory _ _ me) fun me' => ?_
      exact (steadily_succeed rest _).yields
  | preserve body factory =>
    refine hrun.yields_bind (f := id) (hasked body (.head _)) input me (fun o => ?_)
      fun e b he => ⟨b, rfl⟩
    rcases o with ⟨e | rest, b⟩
    · exact (steadily_failWith e b).yields
    · refine Yields.after (steadily_attachMatched factory input rest b) fun me' => ?_
      exact (steadily_succeed input me').yields

end Production

namespace Grammar

variable {env : Environment}

theorem steadily_hand (production : Production) (rest : Window) (parent : NodeBuilder) (me : Node) :
    Steadily (Eval.check (production.apply parent me) >>= succeed rest) :=
  (steadily_check _).bind fun parent => steadily_succeed rest parent

theorem steadily_leaf (input : Window) (stop : Nat) (value : String) (factory : Option Factory)
    (parent : NodeBuilder) : Steadily (leaf input stop value factory parent) := by
  refine (steadily_check _).bind fun rest => ?_
  exact (steadily_check _).bind fun attachment => steadily_succeed rest _

theorem consumePlain_yields (hrun : Alarming bindings run) (production : Production)
    (input : Window) (parent : NodeBuilder) (hasked : ∀ g ∈ production.parts, asked g) :
    Yields bindings asked Outcome.IsError (consumePlain run production input parent) := by
  refine (production.produce_yields hrun input .empty hasked).bind_error (f := id)
    (fun o => ?_) fun e b _ => ⟨parent, rfl⟩
  rcases o with ⟨e | rest, me⟩
  · exact (steadily_failWith e parent).yields
  · refine Yields.after (steadily_check _) fun node => ?_
    exact (steadily_hand production rest parent node).yields

theorem consumeMissed_yields (hrun : Alarming bindings run) (production : Production)
    (key : MemoKey) (input : Window) (parent : NodeBuilder)
    (hasked : ∀ g ∈ production.parts, asked g) :
    Yields bindings asked Outcome.IsError (consumeMissed run production key input parent) := by
  refine Yields.after (steadily_emit rfl) fun _ => ?_
  refine (production.produce_yields hrun input .empty hasked).bind_error (f := id)
    (fun o => ?_) fun e b he => ⟨parent, ?_⟩
  · rcases o with ⟨e | rest, me⟩
    · dsimp only
      split
      · refine Yields.after (steadily_keepFailure key ‹_›) fun kept => ?_
        rcases kept with e' | _
        · exact (steadily_failWith e' parent).yields
        · exact (steadily_failWith e parent).yields
      · exact (steadily_failWith e parent).yields
    · refine Yields.after (steadily_check _) fun node => ?_
      refine Yields.after (steadily_keep key node) fun kept => ?_
      rcases kept with e | stored
      · exact (steadily_failWith e parent).yields
      · exact (steadily_hand production rest parent stored).yields
  · -- The error is not stored.
    simp only [he, Bool.false_eq_true, if_false]
    rfl

theorem consumeCached_yields (hrun : Alarming bindings run) (id : ConsumerId)
    (production : Production) (input : Window) (parent : NodeBuilder)
    (hasked : ∀ g ∈ production.parts, asked g) :
    Yields bindings asked Outcome.IsError (consumeCached run id production input parent) := by
  refine Yields.after (steadily_emit rfl) fun _ => ?_
  refine Yields.after (steadily_ask _) fun found => ?_
  rcases found with e | _ | me
  · exact (steadily_failWith e parent).yields
  · exact consumeMissed_yields hrun production _ input parent hasked
  · refine ((steadily_check _).bind fun parent => ?_).yields
    exact (steadily_check _).bind fun rest => steadily_succeed rest parent

/-- **A consumer gives way to the errors of its parts**, and puts its frames in front of their
context. -/
theorem consumeBy_yields (hrun : Alarming env.bindings run) (g : Grammar) (w : Window)
    (parent : NodeBuilder) :
    Yields env.bindings (g.Mentions env.bindings) (fun e o => o.IsError (e.within g.frames))
      (consumeBy run env g w parent) := by
  have hpart : ∀ part ∈ g.parts, g.Mentions env.bindings part := fun part hp => .inl hp
  cases g with
  | exact token factory =>
    refine Steadily.yields ?_
    rw [consumeBy, consumeExact]
    split
    · exact (steadily_check _).bind fun stop => steadily_leaf w stop token factory parent
    · exact steadily_failWith _ parent
  | charRun min max cls factory =>
    refine Steadily.yields ?_
    rw [consumeBy, consumeCharRun]
    split
    · exact steadily_failWith _ parent
    · refine (steadily_check _).bind fun text => ?_
      exact (steadily_check _).bind fun stop => steadily_leaf w stop text factory parent
  | endOfInput =>
    refine Steadily.yields ?_
    rw [consumeBy, consumeEnd]
    split
    · exact steadily_succeed w parent
    · exact steadily_failWith _ parent
  | skip body =>
    exact hrun.yields_bind (f := id) (hpart body (.head _)) w .empty
      (fun o => (steadily_pure _).yields) fun e b _ => ⟨parent, rfl⟩
  | require body =>
    refine hrun.yields_bind (f := id) (hpart body (.head _)) w parent
      (fun o => (steadily_pure _).yields) fun e b he => ⟨b, ?_⟩
    show (pure ⟨.error e.escalate, b⟩ : Eval Outcome) = _
    rw [ParseError.escalate_of_not_isRecoverable he]
    rfl
  | group name body =>
    exact hrun.yields_bind (f := (·.within [name])) (hpart body (.head _)) w parent
      (fun o => (steadily_pure _).yields) fun e b _ => ⟨b, rfl⟩
  | replace translator body =>
    refine hrun.yields_bind (f := id) (hpart body (.head _)) w .empty (fun o => ?_)
      fun e b _ => ⟨parent, rfl⟩
    rcases o with ⟨e | rest, b⟩
    · exact (steadily_failWith e parent).yields
    · refine (steadily_of_exec fun s => ?_).yields
      exact congrArg Prod.snd (consumeReplaced_exec translator w rest _ parent)
  | reference name =>
    rw [consumeBy]
    cases ht : env.bindings.target? name with
    | none => exact (steadily_failWith _ parent).yields
    | some target => exact hrun.yields (.inr ⟨name, rfl, ht⟩) w parent
  | memoized id production =>
    rw [consumeBy]
    split
    · exact consumeCached_yields hrun id production w parent hpart
    · exact consumePlain_yields hrun production w parent hpart
  | counted name body =>
    refine Yields.after (steadily_modify (fun _ => rfl) fun _ => rfl) fun _ => ?_
    exact hrun.yields (hpart body (.head _)) w parent
  | windowed size body =>
    refine Yields.after (steadily_check _) fun inner => ?_
    refine hrun.yields_bind (f := id) (hpart body (.head _)) inner parent (fun o => ?_)
      fun e b _ => ⟨b, rfl⟩
    rcases o with ⟨e | rest, b⟩
    · exact (steadily_failWith e b).yields
    · refine ((steadily_check _).bind fun rest' => ?_).yields
      exact steadily_succeed rest' b
  | once flag first later =>
    refine Yields.after (steadily_of_exec fun _ => rfl) fun s => ?_
    split
    · exact hrun.yields (hpart later (.tail _ (.head _))) w parent
    · refine Yields.after (steadily_modify (fun _ => rfl) fun _ => rfl) fun _ => ?_
      exact hrun.yields (hpart first (.head _)) w parent
  | fail error => exact (steadily_failWith error parent).yields

/-- The end of a consumer is a raise just if its error is not recoverable. -/
theorem isRaise_ending (g : Grammar) (w : Window) {result : Except ParseError Window}
    (h : ¬ Raises result) : (g.ending w result).isRaise = false := by
  rcases result with e | rest
  · rw [ending, if_pos (Bool.not_eq_false _ ▸ h)]
    rfl
  · rfl

theorem ending_of_not_isRecoverable (g : Grammar) (w : Window) {e : ParseError}
    (he : e.isRecoverable = false) : g.ending w (.error e) = .raised e := by
  rw [ending, he]
  rfl

/-- **One step**: a consumer whose parts give way gives way, and says in the log that it ends with
an error that is not recoverable. -/
theorem alarming_step (hrun : Alarming env.bindings run) :
    Alarming env.bindings (step run env) := by
  intro g w parent s
  have hstart : s.Steady (s.note .started) := s.steady_note _ rfl
  have hyields := consumeBy_yields hrun g w parent (s.note .started)
  rw [step_exec]
  rcases hexec : (consumeBy run env g w parent).exec (s.note .started) with ⟨halt | ⟨result, b⟩, s₁⟩
  · rw [hexec] at hyields
    rcases hyields with hs | ⟨_, _, _, -, -, ho, -⟩
    · exact .inl ⟨hstart.trans hs, fun _ hok => by cases hok⟩
    · cases ho
  · rw [hexec] at hyields
    rcases hyields with hs | ⟨part, e, o, hm, hu, ho, he⟩
    · by_cases hraises : Raises result
      · obtain ⟨e, rfl⟩ : ∃ e, result = .error e := by
          rcases result with e | rest
          · exact ⟨e, rfl⟩
          · cases hraises
        refine .inr ⟨e, ⟨.error e, b⟩, ?_, rfl, rfl⟩
        dsimp only
        rw [ending_of_not_isRecoverable g w hraises]
        exact (hstart.trans hs).raise hraises g
      · refine .inl ⟨?_, fun o ho => Except.ok.inj ho ▸ hraises⟩
        exact (hstart.trans hs).trans (s₁.steady_note _ (isRaise_ending g w hraises))
    · obtain rfl := Except.ok.inj ho
      obtain rfl : result = .error (e.within g.frames) := he
      have hrec : (e.within g.frames).isRecoverable = false := by
        rw [ParseError.isRecoverable_within]
        exact hu.not_isRecoverable
      refine .inr ⟨e.within g.frames, ⟨.error (e.within g.frames), b⟩, ?_, rfl, rfl⟩
      dsimp only
      rw [ending_of_not_isRecoverable g w hrec]
      exact (hstart.unwound hu).around hm

/-- **However much fuel there is, consumers give way.** -/
theorem alarming_consume (env : Environment) (fuel : Nat) :
    Alarming env.bindings (consume env fuel) := by
  induction fuel with
  | zero => exact fun _ _ _ s => .inl ⟨.refl s, fun _ hok => by cases hok⟩
  | succ fuel ih => exact alarming_step ih

end Grammar

end Consumers

end Packrat
