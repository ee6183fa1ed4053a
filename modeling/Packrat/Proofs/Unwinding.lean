import Packrat.Proofs.Yielding

/-! # Errors that no one recovers from

Consumers give way to errors that are not recoverable.  This module reads off the log what that
means for a run and for a parse (`fatal_never_swallowed`): wherever the log shows a raise, all that
it shows from then on is how the error leaves the grammar, and the run ends with the error.  A parse
adds that it is given up.
-/
namespace Packrat

/-! ## Reading the log -/

/-- **An error ends a run of `g`** that led from `s` to `s'`.  Behind the events `before`, a
consumer ended with the error `e`; the error left `g` as `e'`, and `after` is all that the log shows
of it. -/
structure Grammar.Escapes (bindings : Bindings) (g : Grammar) (s s' : Session)
    (before : List ParseEvent) (e : ParseError) (after : List ParseEvent) (e' : ParseError) :
    Prop where
  not_recoverable : e.isRecoverable = false
  /-- The error only passes the consumers around, and only gets the names of groups. -/
  unwinds : ∃ frames, Unwinds bindings e g frames after ∧ e.Framed frames e'
  /-- No consumer starts, none is asked for a result, and nothing is stored. -/
  silent : ∀ event ∈ after, event.isRaise = true
  /-- All that has been stored was stored before. -/
  stored : ∀ key : MemoKey, s'.memo.entries[key]? ≠ s.memo.entries[key]? →
    ∃ event ∈ before, event.storedKey? = some key

theorem ParseEvent.storedKey?_of_isRaise {event : ParseEvent} (h : event.isRaise = true) :
    event.storedKey? = none := by
  cases event <;> first | rfl | cases h

/-- A log that shows no raise does not go on with one. -/
theorem not_isRaise_split {events before after : List ParseEvent} {e : ParseError}
    (hcalm : ∀ event ∈ events, event.isRaise = false)
    (hevents : events = before ++ .raised e :: after) : False := by
  have hraise := hcalm (.raised e) (hevents ▸ List.mem_append_right before (.head after))
  cases hraise

/-- What a parse itself writes in front of a run and behind it shows no raise. -/
theorem exists_split_of_framed {opening : ParseEvent}
    {events closing before after : List ParseEvent} {e : ParseError}
    (hopening : opening.isRaise = false)
    (hclosing : ∀ event ∈ closing, event.isRaise = false)
    (hevents : opening :: (events ++ closing) = before ++ .raised e :: after) :
    ∃ before' after', before = opening :: before' ∧ after = after' ++ closing ∧
      events = before' ++ .raised e :: after' := by
  rcases before with _ | ⟨first, before⟩
  · obtain ⟨rfl, -⟩ := List.cons.inj hevents
    cases hopening
  · obtain ⟨rfl, hrest⟩ := List.cons.inj hevents
    rcases List.append_eq_append_iff.mp hrest with ⟨between, rfl, hclosed⟩ | ⟨between, rfl, hafter⟩
    · exact (not_isRaise_split hclosing hclosed).elim
    · rcases between with _ | ⟨event, between⟩
      · have hclosed : closing = [] ++ .raised e :: after := hafter.symm
        exact (not_isRaise_split hclosing hclosed).elim
      · obtain ⟨rfl, rfl⟩ := List.cons.inj hafter
        exact ⟨before, between, rfl, rfl, rfl⟩

namespace Session

variable {bindings : Bindings} {g : Grammar} {s s' : Session} {e e' : ParseError}
  {events before after : List ParseEvent}

/-- Wherever the log shows a raise, the error leaves the grammar from there on. -/
theorem Unwound.escapes (hu : s.Unwound bindings g e' s')
    (hlog : s'.log.toList = s.log.toList ++ events)
    (hevents : events = before ++ .raised e :: after) :
    g.Escapes bindings s s' before e after e' := by
  obtain ⟨before₀, e₀, frames, after₀, hadds, hcalm, he₀, hunwinds, rfl⟩ := hu
  have hsplit : before₀ ++ .raised e₀ :: after₀ = before ++ .raised e :: after := by
    rw [← hevents]
    exact List.append_cancel_left (hadds.log_eq.symm.trans hlog)
  -- The first raise stands in front of this one, or is this one.
  obtain ⟨frames', hunwinds', hwithin, hbefore⟩ : ∃ frames', Unwinds bindings e g frames' after ∧
      e₀.within frames = e.within frames' ∧ before₀ <+: before := by
    rcases List.append_eq_append_iff.mp hsplit with ⟨between, rfl, hrest⟩ | ⟨between, rfl, hrest⟩
    · rcases between with _ | ⟨event, between⟩
      · obtain ⟨hevent, rfl⟩ := List.cons.inj hrest
        obtain rfl := ParseEvent.raised.inj hevent
        exact ⟨frames, hunwinds, rfl, List.prefix_append before₀ []⟩
      · obtain ⟨-, hafter⟩ := List.cons.inj hrest
        obtain ⟨frames', hunwinds', hwithin⟩ := hunwinds.of_append hafter
        exact ⟨frames', hunwinds', hwithin, List.prefix_append before₀ _⟩
    · rcases between with _ | ⟨event, between⟩
      · obtain ⟨hevent, rfl⟩ := List.cons.inj hrest
        obtain rfl := ParseEvent.raised.inj hevent
        rw [List.append_nil]
        exact ⟨frames, hunwinds, rfl, List.prefix_rfl⟩
      · obtain ⟨rfl, -⟩ := List.cons.inj hrest
        exact (not_isRaise_split hcalm rfl).elim
  have he : e.isRecoverable = false := by
    have hrec := congrArg ParseError.isRecoverable hwithin
    rw [ParseError.isRecoverable_within, ParseError.isRecoverable_within] at hrec
    exact hrec.symm.trans he₀
  refine ⟨he, ⟨frames', hunwinds', ?_⟩, hunwinds'.isRaise, fun key hne => ?_⟩
  · rw [hwithin]
    exact ParseError.framed_within he frames'
  · obtain ⟨event, hevent, hkey⟩ := hadds.stored key hne
    rcases List.mem_append.mp hevent with hevent | hevent
    · exact ⟨event, hbefore.subset hevent, hkey⟩
    · rcases List.mem_cons.mp hevent with rfl | hevent
      · cases hkey
      · have hnone := ParseEvent.storedKey?_of_isRaise (hunwinds.isRaise event hevent)
        rw [hnone] at hkey
        cases hkey

/-- The log of a run that ends with an error ends with its raise. -/
theorem Unwound.exists_last (hu : s.Unwound bindings g e s')
    (hlog : s'.log.toList = s.log.toList ++ events) : ∃ before, events = before ++ [.raised e] := by
  obtain ⟨before, e₀, frames, after, hadds, -, -, hunwinds, rfl⟩ := hu
  obtain ⟨between, hlast⟩ := hunwinds.exists_last
  refine ⟨before ++ between, ?_⟩
  rw [List.append_assoc, ← hlast]
  exact List.append_cancel_left (hlog.symm.trans hadds.log_eq)

theorem Unwound.adds (hu : s.Unwound bindings g e s') : ∃ events, s.Adds s' events := by
  obtain ⟨before, e₀, frames, after, hadds, -⟩ := hu
  exact ⟨_, hadds⟩

end Session

namespace Grammar

variable {env : Environment} {fuel : Nat} {g : Grammar} {w : Window} {parent : NodeBuilder}
  {s s' : Session}

/-- A run either shows no raise and does not end with one, or it ends with an error that has left
the grammar. -/
theorem consume_unwound {r : Except Halt Outcome}
    (hexec : (g.consume env fuel w parent).exec s = (r, s')) :
    (s.Steady s' ∧ ∀ e b, r = .ok ⟨.error e, b⟩ → e.isRecoverable = true) ∨
      ∃ e, r = .ok ⟨.error e, parent⟩ ∧ s.Unwound env.bindings g e s' := by
  have halarming := alarming_consume env fuel g w parent s
  obtain ⟨reply, hreply⟩ := appends_consume env fuel g w parent s
  rw [hexec] at halarming hreply
  rcases halarming with ⟨hs, hcalm⟩ | ⟨e, ⟨result, b⟩, hu, ho, he⟩
  · refine .inl ⟨hs, fun e b hr => ?_⟩
    have hnot : ¬ Raises (Except.error e : Except ParseError Window) := hcalm ⟨.error e, b⟩ hr
    rwa [raises_error, Bool.not_eq_false] at hnot
  · obtain rfl : result = .error e := he
    refine .inr ⟨e, ?_, hu⟩
    -- An error leaves the builder as it was.
    obtain rfl : r = .ok ⟨.error e, b⟩ := ho
    rcases reply with halt | e' | ⟨rest, nodes⟩
    · cases hreply
    · obtain ⟨he', rfl⟩ := Outcome.mk.inj (Except.ok.inj hreply)
      rfl
    · obtain ⟨he', -⟩ := Outcome.mk.inj (Except.ok.inj hreply)
      cases he'

/-- What a run shows of errors that are not recoverable. -/
theorem consume_escapes {r : Except Halt Outcome}
    (hexec : (g.consume env fuel w parent).exec s = (r, s')) :
    ∃ events, s'.log.toList = s.log.toList ++ events ∧
      (∀ before e after, events = before ++ .raised e :: after →
        ∃ e', r = .ok ⟨.error e', parent⟩ ∧ g.Escapes env.bindings s s' before e after e') ∧
      (∀ e b, r = .ok ⟨.error e, b⟩ → e.isRecoverable = false →
        ∃ before, events = before ++ [.raised e]) ∧
      ∀ (key : MemoKey) (e : ParseError), s'.memo.entries[key]? = some (.failed e) →
        e.isRecoverable = true ∨ s.memo.entries[key]? = some (.failed e) := by
  rcases consume_unwound hexec with ⟨⟨events, hadds, hcalm⟩, hrec⟩ | ⟨e', rfl, hu⟩
  · refine ⟨events, hadds.log_eq, fun before e after hevents => ?_, fun e b hr he => ?_,
      hadds.failed⟩
    · exact (not_isRaise_split hcalm hevents).elim
    · rw [hrec e b hr] at he
      cases he
  · obtain ⟨events, hadds⟩ := hu.adds
    refine ⟨events, hadds.log_eq, fun before e after hevents => ?_, fun e b hr _ => ?_,
      hadds.failed⟩
    · exact ⟨e', rfl, hu.escapes hadds.log_eq hevents⟩
    · obtain ⟨he, -⟩ := Outcome.mk.inj (Except.ok.inj hr)
      obtain rfl := Except.error.inj he
      exact hu.exists_last hadds.log_eq

/-- A parse ends with an error of its own only if it is recoverable. -/
theorem isRecoverable_firstNode {rest : Window} {b : NodeBuilder} {e : ParseError}
    (h : firstNode rest b = .error e) : e.isRecoverable = true := by
  rw [firstNode] at h
  split at h
  · cases h
  · cases h
    rfl

/-- An error leaves with what makes it not recoverable. -/
theorem Escapes.not_isRecoverable {bindings : Bindings} {before after : List ParseEvent}
    {e e' : ParseError} (h : g.Escapes bindings s s' before e after e') :
    e'.isRecoverable = false := by
  obtain ⟨frames, -, hframed⟩ := h.unwinds
  cases hframed <;> rfl

/-- What the parse writes into the log behind its grammar: that it was given up, or that it
finished. -/
theorem Parses.exists_closing {config : Config} {o : Except Halt Outcome} {s₁ : Session}
    {r : Except Halt (Except ParseError Node)} (h : Parses config o s₁ r s') :
    ∃ closing, s'.log.toList = s₁.log.toList ++ closing ∧ s'.memo = s₁.memo ∧
      (∀ event ∈ closing, event.isRaise = false) ∧
      ((∃ e b, o = .ok ⟨.error e, b⟩ ∧ e.isRecoverable = false ∧ r = .ok (.error e) ∧
          closing = [.parseAborted e]) ∨
        (∀ e b, o = .ok ⟨.error e, b⟩ → e.isRecoverable = true) ∧
          ∀ e, r = .ok (.error e) → e.isRecoverable = true) := by
  cases h with
  | halts =>
    refine ⟨[], (List.append_nil _).symm, rfl, nofun, .inr ⟨fun e b ho => ?_, fun e hr => ?_⟩⟩
    · cases ho
    · cases hr
  | @fails _ e b he =>
    refine ⟨[], (List.append_nil _).symm, rfl, nofun, .inr ⟨fun e' b' ho => ?_, fun e' hr => ?_⟩⟩
    · obtain ⟨hresult, -⟩ := Outcome.mk.inj (Except.ok.inj ho)
      exact Except.error.inj hresult ▸ he
    · exact Except.error.inj (Except.ok.inj hr) ▸ he
  | @aborts _ e b he =>
    refine ⟨[.parseAborted e], Array.toList_push, rfl, fun event hevent => ?_,
      .inl ⟨e, b, rfl, he, rfl, rfl⟩⟩
    rw [List.mem_singleton.mp hevent]
    rfl
  | leaves _ _ =>
    refine ⟨[], (List.append_nil _).symm, rfl, nofun, .inr ⟨fun e b ho => ?_, fun e hr => ?_⟩⟩
    · cases ho
    · rw [← Except.error.inj (Except.ok.inj hr)]
      rfl
  | @finishes _ rest b =>
    refine ⟨[.parseFinished rest.start s₁.memo.size s₁.memo.hits], Array.toList_push, rfl,
      fun event hevent => ?_, .inr ⟨fun e b ho => ?_, fun e hr => ?_⟩⟩
    · rw [List.mem_singleton.mp hevent]
      rfl
    · cases ho
    · exact isRecoverable_firstNode (Except.ok.inj hr)

/-- What a parse shows of errors that are not recoverable. -/
theorem parseWith_escapes {config : Config} {text : String}
    {r : Except Halt (Except ParseError Node)}
    (hexec : (g.parseWith env fuel config text).exec s = (r, s')) :
    ∃ events, s'.log.toList = s.log.toList ++ events ∧
      (∀ before e after, events = before ++ .raised e :: after →
        ∃ passed e', after = passed ++ [.parseAborted e'] ∧ r = .ok (.error e') ∧
          g.Escapes env.bindings { s with memo := .empty } s' before e passed e') ∧
      (∀ e, r = .ok (.error e) → e.isRecoverable = false →
        ∃ before, events = before ++ [.raised e, .parseAborted e]) ∧
      ∀ (key : MemoKey) (e : ParseError), s'.memo.entries[key]? = some (.failed e) →
        e.isRecoverable = true ∨ s.memo.entries[key]? = some (.failed e) := by
  rcases parseWith_parses hexec with ⟨v, rfl, rfl⟩ | ⟨o, s₁, hconsume, hparses⟩
  · refine ⟨[.parseStarted text.utf8ByteSize], Array.toList_push, fun before e after hevents => ?_,
      nofun, fun _ _ he => .inr he⟩
    rcases before with _ | ⟨first, before⟩
    · cases (List.cons.inj hevents).1
    · simp at hevents
  · obtain ⟨events, hlog, hescapes, hlast, hfailed⟩ := consume_escapes hconsume
    obtain ⟨closing, hclosed, hmemo, hcalm, hends⟩ := Parses.exists_closing hparses
    refine ⟨.parseStarted text.utf8ByteSize :: (events ++ closing), ?_,
      fun before e after hevents => ?_, fun e hr he => ?_, fun key e hentry => ?_⟩
    · rw [hclosed, hlog]
      simp
    · obtain ⟨before, after, rfl, rfl, hsplit⟩ := exists_split_of_framed rfl hcalm hevents
      obtain ⟨e', rfl, hescape⟩ := hescapes before e after hsplit
      rcases hends with ⟨e'', b, ho, -, rfl, rfl⟩ | ⟨hrec, -⟩
      · obtain ⟨hresult, -⟩ := Outcome.mk.inj (Except.ok.inj ho)
        obtain rfl := Except.error.inj hresult
        refine ⟨after, e', rfl, rfl, hescape.not_recoverable, hescape.unwinds, hescape.silent,
          fun key hne => ?_⟩
        rw [hmemo] at hne
        obtain ⟨event, hevent, hkey⟩ := hescape.stored key hne
        exact ⟨event, .tail _ hevent, hkey⟩
      · have habsurd := hescape.not_isRecoverable.symm.trans (hrec e' _ rfl)
        cases habsurd
    · rcases hends with ⟨e', b, rfl, -, rfl, rfl⟩ | ⟨-, hrec⟩
      · obtain rfl := Except.error.inj (Except.ok.inj hr)
        obtain ⟨before, rfl⟩ := hlast e' b rfl he
        exact ⟨.parseStarted text.utf8ByteSize :: before, by simp⟩
      · rw [hrec e hr] at he
        cases he
    · rw [hmemo] at hentry
      rcases hfailed key e hentry with hrec | hempty
      · exact .inl hrec
      · simp at hempty

end Grammar

/-- **Errors that no one may recover from are never swallowed.**  In a run of a grammar, whatever is
in the table and whatever the consumers are nested in, what the log shows behind the end of a
consumer with such an error are the ends of the consumers around it; the run ends with the error,
which has got the names of groups on its way and nothing else, and nothing has been stored since.  A
run that ends with such an error has said so in the log.  All errors that a run stores are
recoverable.  The same goes for a parse, which says in the end that it is given up. -/
theorem fatal_never_swallowed (env : Environment) (fuel : Nat) (g : Grammar) (s s' : Session) :
    (∀ (w : Window) (parent : NodeBuilder) (r : Except Halt Outcome),
      (g.consume env fuel w parent).exec s = (r, s') →
      ∃ events, s'.log.toList = s.log.toList ++ events ∧
        (∀ before e after, events = before ++ .raised e :: after →
          ∃ e', r = .ok ⟨.error e', parent⟩ ∧ g.Escapes env.bindings s s' before e after e') ∧
        (∀ e b, r = .ok ⟨.error e, b⟩ → e.isRecoverable = false →
          ∃ before, events = before ++ [.raised e]) ∧
        ∀ (key : MemoKey) (e : ParseError), s'.memo.entries[key]? = some (.failed e) →
          e.isRecoverable = true ∨ s.memo.entries[key]? = some (.failed e)) ∧
    ∀ (config : Config) (text : String) (r : Except Halt (Except ParseError Node)),
      (g.parseWith env fuel config text).exec s = (r, s') →
      ∃ events, s'.log.toList = s.log.toList ++ events ∧
        (∀ before e after, events = before ++ .raised e :: after →
          ∃ passed e', after = passed ++ [.parseAborted e'] ∧ r = .ok (.error e') ∧
            g.Escapes env.bindings { s with memo := .empty } s' before e passed e') ∧
        (∀ e, r = .ok (.error e) → e.isRecoverable = false →
          ∃ before, events = before ++ [.raised e, .parseAborted e]) ∧
        ∀ (key : MemoKey) (e : ParseError), s'.memo.entries[key]? = some (.failed e) →
          e.isRecoverable = true ∨ s.memo.entries[key]? = some (.failed e) :=
  ⟨fun _ _ _ => Grammar.consume_escapes, fun _ _ _ => Grammar.parseWith_escapes⟩

namespace Pair

/-- Two letters. -/
def letters : Grammar := .memoized ⟨2⟩ (.sequence [.exact "a" none, .exact "b" none] none)

/-- The two letters, which must be there. -/
def pair : Grammar := .group "pair" (.require letters)

/-- The pair, or the text of another one. -/
def grammar : Grammar := .memoized ⟨1⟩ (.choice [pair, .exact "ac" none] none)

/-- The text of the other one. -/
def text : Window := .ofText "ac"

/-- The failure of the letters. -/
def missing : ParseError := .mismatch "Token mismatch (b)" 1 (some "Sequence failed")

/-- The error that is raised for it, with the context that it has got. -/
def cut (context : String) : ParseError :=
  .fatal "Token mismatch (b)" 1 (some context) (some missing)

open Grammar

variable {s : Session}

/-- Where there is no entry for the letters, their failure is stored. -/
theorem entries_letters (hnone : s.memo.entries[text.key ⟨2⟩]? = none) :
    ((letters.consume {} 9 text .empty).exec s).2.memo.entries =
      s.memo.entries.insert (text.key ⟨2⟩) (.failed missing) := by
  have hnone' : (s.note .started).memo.entries[text.key ⟨2⟩]? = none := hnone
  obtain ⟨me, s₁, hproduced, hmemo⟩ : ∃ me s₁,
      (Production.produce (consume {} 8) (.sequence [.exact "a" none, .exact "b" none] none) text
        .empty).exec (((s.note .started).note (.requested (text.key ⟨2⟩))).note
          (.produced (text.key ⟨2⟩))) = (.ok ⟨.error missing, me⟩, s₁) ∧ s₁.memo = s.memo :=
    ⟨_, _, rfl, rfl⟩
  have hnot : ∀ old, s₁.memo.entries[text.key ⟨2⟩]? ≠ some (.matched old) := by
    intro old hold
    rw [hmemo] at hold
    cases hnone.symm.trans hold
  rw [letters, consume, step_exec, consumeBy, if_pos rfl, consumeCached_exec_of_none hnone',
    consumeMissed_exec_of_failed hproduced rfl hnot, ← hmemo]
  rfl

/-- Where their failure is found, it is the failure of the letters again. -/
theorem exec_letters (hfound : s.memo.entries[text.key ⟨2⟩]? = some (.failed missing)) :
    (letters.consume {} 6 text .empty).exec s =
      (.ok ⟨.error missing, .empty⟩,
        (((s.note .started).note (.requested (text.key ⟨2⟩))).hit.note
          (.memoFailureHit (text.key ⟨2⟩))).note (.ended .nothing)) := by
  have hfound' : (s.note .started).memo.entries[text.key ⟨2⟩]? = some (.failed missing) := hfound
  rw [letters, consume, step_exec, consumeBy, if_pos rfl, consumeCached_exec_of_failed hfound']
  rfl

/-- The pair raises it then. -/
theorem exec_pair (hfound : s.memo.entries[text.key ⟨2⟩]? = some (.failed missing)) :
    ∃ s', (pair.consume {} 8 text .empty).exec s =
        (.ok ⟨.error (cut "pair -> Sequence failed"), .empty⟩, s') ∧
      s'.log.toList = s.log.toList ++
        [.started, .started, .started, .requested (text.key ⟨2⟩), .memoFailureHit (text.key ⟨2⟩),
          .ended .nothing, .raised (cut "Sequence failed"),
          .raised (cut "pair -> Sequence failed")] := by
  have hfound' : ((s.note .started).note .started).memo.entries[text.key ⟨2⟩]? =
      some (.failed missing) := hfound
  rw [pair, consume, step_exec, consumeBy, Eval.exec_bind, consume, step_exec, consumeBy,
    Eval.exec_bind, exec_letters hfound']
  refine ⟨_, rfl, ?_⟩
  simp only [Session.log_note, Session.hit, Array.toList_push, List.append_assoc]
  rfl

/-- And the choice does not try the other text. -/
theorem exec_grammar (hnone : s.memo.entries[text.key ⟨1⟩]? = none)
    (hfound : s.memo.entries[text.key ⟨2⟩]? = some (.failed missing)) :
    ∃ s', (grammar.consume {} 9 text .empty).exec s =
        (.ok ⟨.error (cut "pair -> Sequence failed"), .empty⟩, s') ∧
      s'.log.toList = s.log.toList ++
        ([.started, .requested (text.key ⟨1⟩), .produced (text.key ⟨1⟩), .started, .started,
          .started, .requested (text.key ⟨2⟩), .memoFailureHit (text.key ⟨2⟩), .ended .nothing] ++
        .raised (cut "Sequence failed") ::
          [.raised (cut "pair -> Sequence failed"), .raised (cut "pair -> Sequence failed")]) := by
  have hnone' : (s.note .started).memo.entries[text.key ⟨1⟩]? = none := hnone
  have hfound' : (((s.note .started).note (.requested (text.key ⟨1⟩))).note
      (.produced (text.key ⟨1⟩))).memo.entries[text.key ⟨2⟩]? = some (.failed missing) := hfound
  obtain ⟨s₁, hpair, hlog⟩ := exec_pair hfound'
  have hproduced : (Production.produce (consume {} 8) (.choice [pair, .exact "ac" none] none) text
      .empty).exec (((s.note .started).note (.requested (text.key ⟨1⟩))).note
        (.produced (text.key ⟨1⟩))) =
      (.ok ⟨.error (cut "pair -> Sequence failed"), .empty⟩, s₁) := by
    rw [Production.produce, Production.produceBranches, Eval.exec_bind, hpair]
    rfl
  rw [grammar, consume, step_exec, consumeBy, if_pos rfl, consumeCached_exec_of_none hnone',
    consumeMissed_exec_of_raised hproduced rfl]
  refine ⟨_, rfl, ?_⟩
  simp only [Session.log_note, Array.toList_push, hlog, List.append_assoc]
  rfl

end Pair

/-- The other text is not tried: behind the raise the group and the choice end.  The letters were
looked for before; what is raised is their failure, which is found in the table. -/
theorem pair_never_swallowed :
    let s := ((Pair.letters.consume {} 9 Pair.text .empty).exec {}).2
    ∃ s' before passed,
      (Pair.grammar.consume {} 9 Pair.text .empty).exec s =
          (.ok ⟨.error (Pair.cut "pair -> Sequence failed"), .empty⟩, s') ∧
        s'.log.toList =
          s.log.toList ++ (before ++ .raised (Pair.cut "Sequence failed") :: passed) ∧
        .memoFailureHit (Pair.text.key ⟨2⟩) ∈ before ∧ passed.length = 2 ∧
        Pair.grammar.Escapes [] s s' before (Pair.cut "Sequence failed") passed
          (Pair.cut "pair -> Sequence failed") := by
  intro s
  have hentries : s.memo.entries =
      Std.HashMap.insert {} (Pair.text.key ⟨2⟩) (.failed Pair.missing) :=
    Pair.entries_letters (MemoTable.getElem?_empty _)
  have hnone : s.memo.entries[Pair.text.key ⟨1⟩]? = none := by
    rw [hentries, Std.HashMap.getElem?_insert, if_neg (by decide), Std.HashMap.getElem?_empty]
  have hfound : s.memo.entries[Pair.text.key ⟨2⟩]? = some (.failed Pair.missing) := by
    rw [hentries, Std.HashMap.getElem?_insert_self]
  obtain ⟨s', hexec, hlog⟩ := Pair.exec_grammar hnone hfound
  obtain ⟨events, hevents, hescapes, -⟩ :=
    (fatal_never_swallowed {} 9 Pair.grammar s s').1 _ _ _ hexec
  obtain ⟨e', hresult, hescape⟩ :=
    hescapes _ _ _ (List.append_cancel_left (hevents.symm.trans hlog))
  obtain ⟨hresult, -⟩ := Outcome.mk.inj (Except.ok.inj hresult)
  obtain rfl := Except.error.inj hresult
  exact ⟨s', _, _, hexec, hlog, by simp, rfl, hescape⟩

end Packrat
