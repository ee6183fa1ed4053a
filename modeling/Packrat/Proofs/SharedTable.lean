import Packrat.Proofs.Commitment
import Packrat.Proofs.LooksUp

/-! # What a shared table remembers

`History` reads off a log which consumers run and which productions have ended with a match or with
an error one may recover from.  Over a table that is shared by any number of consumers, whatever
grammars they are and however they end, no production that has ended so is ever run again
(`Session.Shared.orderly`).

The invariant is `Session.Orderly`: what has ended well has an entry.  Entries never go away
(`Session.Leads`), and a production is run only if there is none.
-/
namespace Packrat

/-- Which consumers run, and which productions have ended well. -/
structure History where
  /-- The consumers that run, innermost first, each with the key of the production it has run. -/
  running : List (Option MemoKey) := []
  /-- The keys of the productions that ended with a match or a recoverable error. -/
  completed : List MemoKey := []

namespace History

/-- The history after one more event.  A production has ended well once its result is stored, and at
the latest when its consumer ends without raising an error. -/
def after : History → ParseEvent → History
  | ⟨running, completed⟩, .started => ⟨none :: running, completed⟩
  | ⟨_ :: running, completed⟩, .produced key => ⟨some key :: running, completed⟩
  | ⟨running, completed⟩, .memoStored key => ⟨running, key :: completed⟩
  | ⟨running, completed⟩, .failureStored key => ⟨running, key :: completed⟩
  | ⟨ran :: running, completed⟩, .ended _ => ⟨running, ran.toList ++ completed⟩
  | ⟨_ :: running, completed⟩, .raised _ => ⟨running, completed⟩
  | history, _ => history

/-- The history that a list of events tells. -/
def of (events : List ParseEvent) : History := events.foldl after {}

theorem after_of_isRemark {history : History} {event : ParseEvent} (h : event.isRemark) :
    history.after event = history := by
  cases event <;> first | rfl | cases h

end History

namespace Session

/-- The history that the log tells. -/
def history (s : Session) : History := .of s.log.toList

@[simp] theorem history_note (s : Session) (event : ParseEvent) :
    (s.note event).history = s.history.after event := by
  simp [history, History.of]

@[simp] theorem history_hit (s : Session) : s.hit.history = s.history := rfl

theorem mem_of_some {s : Session} {key : MemoKey} {entry : MemoEntry Node}
    (h : s.memo.entries[key]? = some entry) : key ∈ s.memo.entries := by
  rw [Std.HashMap.mem_iff_isSome_getElem?, h]
  rfl

theorem not_mem_of_none {s : Session} {key : MemoKey} (h : s.memo.entries[key]? = none) :
    key ∉ s.memo.entries := by
  rw [Std.HashMap.mem_iff_isSome_getElem?, h]
  nofun

theorem mem_entries_store {s : Session} {key key' : MemoKey} {entry : MemoEntry Node} :
    key' ∈ (s.store key entry).memo.entries ↔ key = key' ∨ key' ∈ s.memo.entries := by
  rw [store, Std.HashMap.mem_insert, beq_iff_eq]

/-- Productions that have ended well have an entry, and were not run again. -/
structure Orderly (s : Session) : Prop where
  stored : ∀ key ∈ s.history.completed, key ∈ s.memo.entries
  once : ∀ before key after, s.log.toList = before ++ .produced key :: after →
    key ∉ (History.of before).completed

/-- What comes after `s` is orderly if `s` is, and keeps its entries. -/
structure Leads (s s' : Session) : Prop where
  orderly : s.Orderly → s'.Orderly
  kept : ∀ key ∈ s.memo.entries, key ∈ s'.memo.entries

variable {s s₁ s' : Session}

theorem Leads.refl (s : Session) : s.Leads s := ⟨id, fun _ => id⟩

theorem Leads.trans (h : s.Leads s₁) (h' : s₁.Leads s') : s.Leads s' :=
  ⟨fun hs => h'.orderly (h.orderly hs), fun key hk => h'.kept key (h.kept key hk)⟩

/-- One more event. -/
theorem Orderly.note (h : s.Orderly) {event : ParseEvent}
    (hproduced : ∀ key, event = .produced key → key ∉ s.memo.entries)
    (hcompleted : ∀ key ∈ (s.history.after event).completed, key ∈ s.memo.entries) :
    (s.note event).Orderly where
  stored := by
    intro key hk
    rw [history_note] at hk
    exact hcompleted key hk
  once := by
    intro before key after heq
    rw [log_note, Array.toList_push] at heq
    rcases List.eq_nil_or_concat after with rfl | ⟨after, last, rfl⟩
    · -- The new event is the production: its key has no entry, and so it has not ended well.
      obtain ⟨rfl, hlast⟩ := List.append_inj' heq rfl
      obtain rfl := (List.cons.inj hlast).1
      exact fun hk => hproduced key rfl (h.stored key hk)
    · have hsplit : s.log.toList ++ [event] = (before ++ .produced key :: after) ++ [last] := by
        rw [heq]
        simp
      obtain ⟨hlog, -⟩ := List.append_inj' hsplit rfl
      exact h.once before key after hlog

/-- An event that completes nothing and runs nothing. -/
theorem leads_note {event : ParseEvent} (hproduced : ∀ key, event ≠ .produced key)
    (hcompleted : (s.history.after event).completed = s.history.completed) :
    s.Leads (s.note event) where
  orderly h := h.note (fun key heq => absurd heq (hproduced key)) (hcompleted ▸ h.stored)
  kept _ hk := hk

/-- A production is run for which there is no entry. -/
theorem leads_produced {key : MemoKey} (hkey : key ∉ s.memo.entries) :
    s.Leads (s.note (.produced key)) where
  orderly h := by
    refine h.note (fun key' heq => ParseEvent.produced.inj heq ▸ hkey) ?_
    rw [show (s.history.after (.produced key)).completed = s.history.completed by
      rcases s.history with ⟨_ | ⟨_, _⟩, _⟩ <;> rfl]
    exact h.stored
  kept _ hk := hk

/-- A result is stored. -/
theorem leads_stored (s : Session) {key : MemoKey} (entry : MemoEntry Node) {event : ParseEvent}
    (hevent : ∀ history : History,
      history.after event = ⟨history.running, key :: history.completed⟩)
    (hproduced : ∀ key, event ≠ .produced key) : s.Leads ((s.store key entry).note event) := by
  refine ⟨fun h => ?_, fun key' hk => mem_entries_store.mpr (.inr hk)⟩
  have hstored : (s.store key entry).Orderly :=
    ⟨fun key' hk => mem_entries_store.mpr (.inr (h.stored key' hk)), h.once⟩
  refine hstored.note (fun key heq => absurd heq (hproduced key)) ?_
  rw [hevent]
  exact List.forall_mem_cons.mpr ⟨mem_entries_store.mpr (.inl rfl), hstored.stored⟩

end Session

/-! ## Runs keep sessions orderly -/

/-- A run leads to orderly sessions, and where it ends the same consumers run as before. -/
def Careful (run : Run) : Prop :=
  ∀ (g : Grammar) (w : Window) (parent : NodeBuilder) (s s' : Session) (r : Except Halt Outcome),
    (run g w parent).exec s = (r, s') →
    s.Leads s' ∧ ∀ o, r = .ok o → s'.history.running = s.history.running

section Running

variable {run : Run} {env : Environment} {s s' : Session}

theorem Follows.careful (hrun : Careful run) {α : Type} {p : Plan α} {r : Except Halt α}
    (hf : Follows run p s r s') :
    s.Leads s' ∧ ∀ a, r = .ok a → s'.history.running = s.history.running := by
  induction hf with
  | done => exact ⟨.refl _, fun _ _ => rfl⟩
  | @remark p event r s s' hevent _ ih =>
    have hsame : s.history.after event = s.history := History.after_of_isRemark hevent
    have hnote : s.Leads (s.note event) := by
      refine Session.leads_note (fun key heq => ?_) (by rw [hsame])
      rw [heq] at hevent
      cases hevent
    obtain ⟨hleads, hrunning⟩ := ih
    rw [Session.history_note, hsame] at hrunning
    exact ⟨hnote.trans hleads, hrunning⟩
  | ask hexec _ ih =>
    obtain ⟨hleads, hrunning⟩ := hrun _ _ _ _ _ _ hexec
    obtain ⟨hleads', hrunning'⟩ := ih
    exact ⟨hleads.trans hleads', fun a ha => (hrunning' a ha).trans (hrunning _ rfl)⟩
  | halt hexec =>
    obtain ⟨hleads, -⟩ := hrun _ _ _ _ _ _ hexec
    exact ⟨hleads, nofun⟩

/-- A production is run when there is no entry for its key. -/
theorem Follows.careful_production (hrun : Careful run) {α : Type} {p : Plan α} {key : MemoKey}
    {r : Except Halt α} (hnone : s.memo.entries[key]? = none)
    (hf : Follows run p ((s.note (.requested key)).note (.produced key)) r s') :
    s.Leads s' ∧ ∀ a, r = .ok a → ∀ ran rest, s.history.running = ran :: rest →
      s'.history.running = some key :: rest := by
  have hasked : s.Leads (s.note (.requested key)) := Session.leads_note nofun rfl
  have hproduced :
      (s.note (.requested key)).Leads ((s.note (.requested key)).note (.produced key)) :=
    Session.leads_produced (Session.not_mem_of_none hnone)
  obtain ⟨hleads, hrunning⟩ := hf.careful hrun
  refine ⟨(hasked.trans hproduced).trans hleads, fun a ha ran rest hr => ?_⟩
  rw [hrunning a ha, Session.history_note, Session.history_note]
  show (History.after s.history (.produced key)).running = _
  rcases hs : s.history with ⟨running, completed⟩
  rw [hs] at hr
  cases hr
  rfl

/-- A round of a consumer, which has run no production before it.  Where the round ends, it may have
run one, and unless an error was raised, that one has an entry. -/
structure Round {β : Type} (s : Session) (r : Except Halt (Except ParseError β)) (s' : Session) :
    Prop where
  leads : s.Leads s'
  ran : ∀ reply, r = .ok reply → ∀ rest, s.history.running = none :: rest →
    ∃ ran, s'.history.running = ran :: rest ∧
      (¬ Raises reply → ∀ key, ran = some key → key ∈ s'.memo.entries)

/-- A consumer that runs no production of its own. -/
theorem Round.of_running {β : Type} {r : Except Halt (Except ParseError β)} (h : s.Leads s')
    (hrunning : ∀ reply, r = .ok reply → s'.history.running = s.history.running) :
    Round s r s' where
  leads := h
  ran reply hr _ hrest := ⟨none, (hrunning reply hr).trans hrest, fun _ => nofun⟩

/-- A consumer that runs its production. -/
theorem Round.of_production {β : Type} {r : Except Halt (Except ParseError β)} {key : MemoKey}
    (h : s.Leads s')
    (hrunning : ∀ ran rest, s.history.running = ran :: rest →
      s'.history.running = some key :: rest)
    (hmem : ∀ reply, r = .ok reply → ¬ Raises reply → key ∈ s'.memo.entries) : Round s r s' where
  leads := h
  ran reply hr rest hrest := by
    refine ⟨some key, hrunning none rest hrest, fun hcalm key' heq => ?_⟩
    obtain rfl := Option.some.inj heq
    exact hmem reply hr hcalm

/-- A production whose result is stored. -/
theorem Follows.round_stored {β : Type} (hrun : Careful run) {α : Type} {p : Plan α} {a : α}
    {key : MemoKey} {s₁ : Session} (hnone : s.memo.entries[key]? = none)
    (hf : Follows run p ((s.note (.requested key)).note (.produced key)) (.ok a) s₁)
    (r : Except Halt (Except ParseError β)) (entry : MemoEntry Node) {event : ParseEvent}
    (hevent : ∀ history : History,
      history.after event = ⟨history.running, key :: history.completed⟩)
    (hproduced : ∀ key, event ≠ .produced key) :
    Round s r ((s₁.store key entry).note event) := by
  obtain ⟨hleads, hrunning⟩ := hf.careful_production hrun hnone
  have hran : ∀ ran rest, s.history.running = ran :: rest →
      ((s₁.store key entry).note event).history.running = some key :: rest := by
    intro ran rest hrest
    rw [Session.history_note, hevent]
    exact hrunning a rfl ran rest hrest
  have hmem : key ∈ ((s₁.store key entry).note event).memo.entries :=
    Session.mem_entries_store.mpr (.inl rfl)
  exact .of_production (hleads.trans (s₁.leads_stored entry hevent hproduced)) hran
    fun _ _ _ => hmem

theorem LooksUp.round (hrun : Careful run) {id : ConsumerId} {production : Production} {w : Window}
    {r : Except Halt Reply} (hl : LooksUp run id production w s r s') : Round s r s' := by
  have hasked : s.Leads (s.note (.requested (w.key id))) := Session.leads_note nofun rfl
  have hhit : (s.note (.requested (w.key id))).Leads (s.note (.requested (w.key id))).hit :=
    ⟨fun h => ⟨h.stored, h.once⟩, fun _ hk => hk⟩
  cases hl with
  | found hentry =>
    refine .of_running ((hasked.trans hhit).trans (Session.leads_note nofun rfl)) fun _ _ => ?_
    simp only [Session.history_note, Session.history_hit]
    rfl
  | foundFailure hentry =>
    refine .of_running ((hasked.trans hhit).trans (Session.leads_note nofun rfl)) fun _ _ => ?_
    simp only [Session.history_note, Session.history_hit]
    rfl
  | halted hnone hf =>
    obtain ⟨hleads, -⟩ := hf.careful_production hrun hnone
    exact ⟨hleads, nofun⟩
  | fatal hnone hf hraises =>
    obtain ⟨hleads, hrunning⟩ := hf.careful_production hrun hnone
    refine .of_production hleads (hrunning _ rfl) fun reply hr hcalm => ?_
    cases hr
    exact absurd hraises hcalm
  | storedFailure hnone hf _ _ =>
    exact hf.round_stored hrun hnone _ _ (fun ⟨_, _⟩ => rfl) nofun
  | stored hnone hf _ => exact hf.round_stored hrun hnone _ _ (fun ⟨_, _⟩ => rfl) nofun
  | refusedFailure hnone hf _ _ =>
    obtain ⟨hleads, hrunning⟩ := hf.careful_production hrun hnone
    refine .of_production hleads (hrunning _ rfl) fun reply hr hcalm => ?_
    cases hr
    exact absurd rfl hcalm
  | known hnone hf hentry _ =>
    obtain ⟨hleads, hrunning⟩ := hf.careful_production hrun hnone
    exact .of_production hleads (hrunning _ rfl) fun _ _ _ => Session.mem_of_some hentry
  | refused hnone hf _ _ =>
    obtain ⟨hleads, hrunning⟩ := hf.careful_production hrun hnone
    refine .of_production hleads (hrunning _ rfl) fun reply hr hcalm => ?_
    cases hr
    exact absurd rfl hcalm

theorem Consumes.round (hrun : Careful run) {g : Grammar} {w : Window} {r : Except Halt Reply}
    (hc : Consumes run env g w s r s') : Round s r s' := by
  cases hc with
  | follows _ hf =>
    obtain ⟨hleads, hrunning⟩ := hf.careful hrun
    exact .of_running hleads hrunning
  | looksUp _ hl => exact hl.round hrun

theorem raises_map {α β : Type} {f : α → β} {r : Except ParseError α} :
    Raises (r.map f) ↔ Raises r := by
  cases r <;> rfl

/-- What a round leads to does not depend on what it leaves in the parent. -/
theorem Round.outcome {r : Except Halt Reply} (h : Round s r s') (parent : NodeBuilder) :
    Round s ((r.map (Reply.outcome parent)).map Outcome.result) s' where
  leads := h.leads
  ran := by
    intro result hresult rest hrest
    rcases r with e | reply
    · cases hresult
    · obtain rfl : (reply.outcome parent).result = result := Except.ok.inj hresult
      rw [Reply.result_outcome, raises_map]
      exact h.ran reply rfl rest hrest

end Running

namespace Grammar

variable {run : Run} {env : Environment} {s s' : Session}

theorem consumeBy_round (happ : Appends run) (hrun : Careful run) (g : Grammar) (w : Window)
    (parent : NodeBuilder) {r : Except Halt Outcome}
    (h : (consumeBy run env g w parent).exec s = (r, s')) :
    Round s (r.map Outcome.result) s' := by
  cases hg : g.hasPlan with
  | true =>
    obtain ⟨r', hc, rfl⟩ := consumeBy_consumes happ hg w parent h
    exact (hc.round hrun).outcome parent
  | false =>
    -- A consumer without a plan hands over to a part, after a note that the log does not show.
    have hpart : ∀ {part : Grammar} {t : Session}, (run part w parent).exec t = (r, s') →
        t.log = s.log → t.memo = s.memo → Round s (r.map Outcome.result) s' := by
      intro part t hexec hlog hmemo
      obtain ⟨hleads, hrunning⟩ := hrun _ _ _ _ _ _ hexec
      have hhistory : t.history = s.history := by rw [Session.history, hlog, Session.history]
      have hnote : s.Leads t :=
        ⟨fun h => ⟨by rw [hhistory, hmemo]; exact h.stored, by rw [hlog]; exact h.once⟩,
          by rw [hmemo]; exact fun _ hk => hk⟩
      refine .of_running (hnote.trans hleads) fun result hresult => ?_
      obtain ⟨o, ho, -⟩ := map_eq_ok.mp hresult
      rw [hrunning o ho, hhistory]
    cases g with
    | counted name body =>
      have hbody :
          (run body w parent).exec { s with counts := s.counts.increment name } = (r, s') := h
      exact hpart hbody rfl rfl
    | once flag first later =>
      rw [consumeBy, Eval.exec_bind, Eval.exec_get] at h
      dsimp only at h
      split at h
      · exact hpart h rfl rfl
      · have hfirst : (run first w parent).exec { s with spent := flag :: s.spent } = (r, s') := h
        exact hpart hfirst rfl rfl
    | fail error =>
      obtain ⟨-, rfl⟩ := Prod.mk.inj h
      exact .of_running (.refl _) fun _ _ => rfl
    | _ => cases hg

theorem ending_of_raises {g : Grammar} {w : Window} {result : Except ParseError Window}
    (h : Raises result) : ∃ e, g.ending w result = .raised e := by
  rcases result with e | rest
  · exact ⟨e, if_neg (by simp [raises_error.mp h])⟩
  · cases h

theorem ending_of_not_raises {g : Grammar} {w : Window} {result : Except ParseError Window}
    (h : ¬ Raises result) : ∃ yield, g.ending w result = .ended yield := by
  rcases result with e | rest
  · exact ⟨.nothing, if_pos (by simpa using h)⟩
  · exact ⟨_, rfl⟩

/-- The end of a consumer: it is no longer running, and its production is complete if no error is
raised. -/
theorem leads_ending {g : Grammar} {w : Window} {result : Except ParseError Window}
    {ran : Option MemoKey} {rest : List (Option MemoKey)}
    (hrunning : s.history.running = ran :: rest)
    (hran : ¬ Raises result → ∀ key, ran = some key → key ∈ s.memo.entries) :
    s.Leads (s.note (g.ending w result)) ∧
      (s.note (g.ending w result)).history.running = rest := by
  rcases hs : s.history with ⟨running, completed⟩
  rw [hs] at hrunning
  cases hrunning
  by_cases hraises : Raises result
  · obtain ⟨e, he⟩ := ending_of_raises (g := g) (w := w) hraises
    rw [he, Session.history_note, hs]
    exact ⟨Session.leads_note nofun (by rw [hs]; rfl), rfl⟩
  · obtain ⟨yield, hyield⟩ := ending_of_not_raises (g := g) (w := w) hraises
    rw [hyield, Session.history_note, hs]
    refine ⟨⟨fun h => h.note nofun fun key hk => ?_, fun _ hk => hk⟩, rfl⟩
    rw [hs] at hk
    rcases List.mem_append.mp hk with hk | hk
    · exact hran hraises key (Option.mem_toList.mp hk)
    · exact h.stored key (by rw [hs]; exact hk)

/-- **One step keeps runs careful.** -/
theorem careful_step (happ : Appends run) (hrun : Careful run) : Careful (step run env) := by
  intro g w parent s s' r h
  have hstarted : s.Leads (s.note .started) := Session.leads_note nofun rfl
  have hrunning : (s.note .started).history.running = none :: s.history.running := by
    rw [Session.history_note]
    rfl
  rw [step_exec] at h
  -- A consumer that halts stays on the stack, below all that comes later.
  rcases hexec : (consumeBy run env g w parent).exec (s.note .started) with ⟨e | o, s₁⟩
  all_goals
    have hround := consumeBy_round happ hrun g w parent hexec
    rw [hexec] at h
    obtain ⟨rfl, rfl⟩ := Prod.mk.inj h
  · exact ⟨hstarted.trans hround.leads, nofun⟩
  · obtain ⟨ran, hran, hmem⟩ := hround.ran _ rfl _ hrunning
    obtain ⟨hended, hrest⟩ := leads_ending (g := g) (w := w) hran hmem
    exact ⟨(hstarted.trans hround.leads).trans hended, fun _ _ => hrest⟩

/-- **However much fuel there is, consuming is careful.** -/
theorem careful_consume (env : Environment) (fuel : Nat) : Careful (consume env fuel) := by
  refine consume_induction ?_ (fun _ => careful_step) fuel
  intro g w parent s s' r h
  obtain ⟨rfl, rfl⟩ := Prod.mk.inj h
  exact ⟨.refl _, nofun⟩

end Grammar

/-- The sessions that any number of consumers lead to, whatever was in the table when the log was
begun. -/
inductive Session.Shared (env : Environment) : Session → Prop
  | begun {s : Session} : s.log = #[] → Shared env s
  | consumed {s : Session} (fuel : Nat) (g : Grammar) (w : Window) (parent : NodeBuilder) :
      Shared env s → Shared env ((g.consume env fuel w parent).exec s).2

/-- **What has ended well is stored and never run again**, over any table that is shared. -/
theorem Session.Shared.orderly {env : Environment} {s : Session} (h : s.Shared env) :
    s.Orderly := by
  induction h with
  | begun hlog =>
    refine ⟨fun key hk => ?_, fun before key after heq => ?_⟩
    · rw [history, hlog] at hk
      cases hk
    · rw [hlog] at heq
      simp at heq
  | consumed fuel g w parent _ ih =>
    obtain ⟨hleads, -⟩ := Grammar.careful_consume env fuel g w parent _ _ _ rfl
    exact hleads.orderly ih

end Packrat
