import Packrat.Parse
import Packrat.Proofs.Follows

/-! # Consumers that are looked up

A memoizing consumer that has a memo table at hand first asks the table.  `LooksUp` lists the ways
in which it goes on, and `Consumes` the ways in which any consumer goes on, with its plan or with
the table.  `step_consumes` says that there are no others.
-/
namespace Packrat

/-- The session after a look-up that found an entry. -/
def Session.hit (s : Session) : Session :=
  { s with memo := { s.memo with hits := s.memo.hits + 1 } }

/-- The session with `entry` stored for `key`. -/
def Session.store (s : Session) (key : MemoKey) (entry : MemoEntry Node) : Session :=
  { s with memo := { s.memo with entries := s.memo.entries.insert key entry } }

/-- The key that `id` is looked up under at `w`. -/
def Window.key (w : Window) (id : ConsumerId) : MemoKey := ⟨w.start, w.stop, id⟩

/-- The nodes that a production hands over, as a reply that leaves `rest`. -/
def Production.handReply (production : Production) (rest : Window) (me : Node) :
    Except Halt Reply :=
  ((production.handed me).map fun nodes => .ok (rest, nodes)).mapError .violation

/-- The reply for a node that was found in the table: its end tells where to go on. -/
def Production.foundReply (production : Production) (input : Window) (me : Node) :
    Except Halt Reply :=
  (do
    let nodes ← production.handed me
    let rest ← input.advance ((me.span.map (·.stop)).getD input.start)
    return .ok (rest, nodes) : Except Violation Reply).mapError .violation

/-- How a memoizing consumer that looks its result up goes on, by what it finds and by what its
production makes. -/
inductive LooksUp (run : Run) (id : ConsumerId) (production : Production) (w : Window) :
    Session → Except Halt Reply → Session → Prop
  /-- There is a result. -/
  | found {s : Session} {me : Node} :
      s.memo.entries[w.key id]? = some (.matched me) →
      LooksUp run id production w s (production.foundReply w me)
        ((s.note (.requested (w.key id))).hit.note (.memoHit (w.key id)))
  /-- There is a failure. -/
  | foundFailure {s : Session} {e : ParseError} :
      s.memo.entries[w.key id]? = some (.failed e) →
      LooksUp run id production w s (.ok (.error e))
        ((s.note (.requested (w.key id))).hit.note (.memoFailureHit (w.key id)))
  /-- There is no entry, and the production halts. -/
  | halted {s s₁ : Session} {h : Halt} :
      s.memo.entries[w.key id]? = none →
      Follows run (production.plan w)
        ((s.note (.requested (w.key id))).note (.produced (w.key id))) (.error h) s₁ →
      LooksUp run id production w s (.error h) s₁
  /-- There is no entry, and the production fails for good. -/
  | fatal {s s₁ : Session} {e : ParseError} :
      s.memo.entries[w.key id]? = none →
      Follows run (production.plan w)
        ((s.note (.requested (w.key id))).note (.produced (w.key id))) (.ok (.error e)) s₁ →
      e.isRecoverable = false → LooksUp run id production w s (.ok (.error e)) s₁
  /-- There is no entry, and the failure of the production is stored. -/
  | storedFailure {s s₁ : Session} {e : ParseError} :
      s.memo.entries[w.key id]? = none →
      Follows run (production.plan w)
        ((s.note (.requested (w.key id))).note (.produced (w.key id))) (.ok (.error e)) s₁ →
      e.isRecoverable = true → (∀ old, s₁.memo.entries[w.key id]? ≠ some (.matched old)) →
      LooksUp run id production w s (.ok (.error e))
        ((s₁.store (w.key id) (.failed e)).note (.failureStored (w.key id)))
  /-- There is no entry, and the failure of the production contradicts a result stored since. -/
  | refusedFailure {s s₁ : Session} {e : ParseError} {old : Node} :
      s.memo.entries[w.key id]? = none →
      Follows run (production.plan w)
        ((s.note (.requested (w.key id))).note (.produced (w.key id))) (.ok (.error e)) s₁ →
      e.isRecoverable = true → s₁.memo.entries[w.key id]? = some (.matched old) →
      LooksUp run id production w s (.ok (.error (w.key id).contradiction)) s₁
  /-- There is no entry, and the result of the production is stored. -/
  | stored {s s₁ : Session} {rest : Window} {me : Node} :
      s.memo.entries[w.key id]? = none →
      Follows run (production.plan w)
        ((s.note (.requested (w.key id))).note (.produced (w.key id))) (.ok (.ok (rest, me))) s₁ →
      s₁.memo.entries[w.key id]? = none →
      LooksUp run id production w s (production.handReply rest me)
        ((s₁.store (w.key id) (.matched me)).note (.memoStored (w.key id)))
  /-- There is no entry, and the result of the production has been stored since. -/
  | known {s s₁ : Session} {rest : Window} {me old : Node} :
      s.memo.entries[w.key id]? = none →
      Follows run (production.plan w)
        ((s.note (.requested (w.key id))).note (.produced (w.key id))) (.ok (.ok (rest, me))) s₁ →
      s₁.memo.entries[w.key id]? = some (.matched old) → old.same me = true →
      LooksUp run id production w s (production.handReply rest old) s₁
  /-- There is no entry, and the result of the production contradicts what was stored since. -/
  | refused {s s₁ : Session} {rest : Window} {me : Node} {entry : MemoEntry Node} :
      s.memo.entries[w.key id]? = none →
      Follows run (production.plan w)
        ((s.note (.requested (w.key id))).note (.produced (w.key id))) (.ok (.ok (rest, me))) s₁ →
      s₁.memo.entries[w.key id]? = some entry →
      (∀ old, entry = .matched old → old.same me = false) →
      LooksUp run id production w s (.ok (.error (w.key id).contradiction)) s₁

namespace Grammar

variable {run : Run} {env : Environment} {s s' : Session}

/-- Without an entry a result is worked out. -/
theorem consumeCached_exec_of_none {id : ConsumerId} {production : Production} {input : Window}
    {parent : NodeBuilder} (hnone : s.memo.entries[input.key id]? = none) :
    (consumeCached run id production input parent).exec s =
      (consumeMissed run production (input.key id) input parent).exec
        (s.note (.requested (input.key id))) := by
  have hkey : (⟨input.start, input.stop, id⟩ : MemoKey) = input.key id := rfl
  rw [consumeCached, Eval.exec_bind, Eval.exec_emit, hkey]
  dsimp only
  rw [Eval.exec_bind, Eval.exec_onMemo, Session.memo_note, MemoTable.ask_of_none hnone]
  rfl

/-- A result that is found is handed to the parent. -/
theorem consumeCached_exec_of_matched {id : ConsumerId} {production : Production} {input : Window}
    {parent : NodeBuilder} {me : Node}
    (hfound : s.memo.entries[input.key id]? = some (.matched me)) :
    (consumeCached run id production input parent).exec s =
      ((production.foundReply input me).map (Reply.outcome parent),
        (s.note (.requested (input.key id))).hit.note (.memoHit (input.key id))) := by
  have hkey : (⟨input.start, input.stop, id⟩ : MemoKey) = input.key id := rfl
  rw [consumeCached, Eval.exec_bind, Eval.exec_emit, hkey]
  dsimp only
  rw [Eval.exec_bind, Eval.exec_onMemo, Session.memo_note, MemoTable.ask_of_matched hfound]
  dsimp only
  rw [Eval.exec_bind, Eval.exec_check, Production.apply_eq, Production.foundReply]
  cases production.handed me with
  | error v => rfl
  | ok nodes =>
    dsimp only [map_ok, mapError_ok]
    rw [Eval.exec_bind, Eval.exec_check, ok_bind]
    cases input.advance ((me.span.map (·.stop)).getD input.start) <;> rfl

/-- A failure that is found is the consumer's failure again. -/
theorem consumeCached_exec_of_failed {id : ConsumerId} {production : Production} {input : Window}
    {parent : NodeBuilder} {e : ParseError}
    (hfound : s.memo.entries[input.key id]? = some (.failed e)) :
    (consumeCached run id production input parent).exec s =
      (.ok ⟨.error e, parent⟩,
        (s.note (.requested (input.key id))).hit.note (.memoFailureHit (input.key id))) := by
  have hkey : (⟨input.start, input.stop, id⟩ : MemoKey) = input.key id := rfl
  rw [consumeCached, Eval.exec_bind, Eval.exec_emit, hkey]
  dsimp only
  rw [Eval.exec_bind, Eval.exec_onMemo, Session.memo_note, MemoTable.ask_of_failed hfound]
  rfl

/-- An error that is not recoverable is passed on and not stored. -/
theorem consumeMissed_exec_of_raised {production : Production} {key : MemoKey} {input : Window}
    {parent me : NodeBuilder} {e : ParseError} {s₁ : Session}
    (ho : (production.produce run input .empty).exec (s.note (.produced key)) =
      (.ok ⟨.error e, me⟩, s₁))
    (he : e.isRecoverable = false) :
    (consumeMissed run production key input parent).exec s = (.ok ⟨.error e, parent⟩, s₁) := by
  simp only [consumeMissed, Eval.exec_bind, Eval.exec_emit, ho, he, Bool.false_eq_true, if_false]
  rfl

/-- A recoverable failure is stored where there is no result. -/
theorem consumeMissed_exec_of_failed {production : Production} {key : MemoKey} {input : Window}
    {parent me : NodeBuilder} {e : ParseError} {s₁ : Session}
    (ho : (production.produce run input .empty).exec (s.note (.produced key)) =
      (.ok ⟨.error e, me⟩, s₁))
    (he : e.isRecoverable = true) (hnot : ∀ old, s₁.memo.entries[key]? ≠ some (.matched old)) :
    (consumeMissed run production key input parent).exec s =
      (.ok ⟨.error e, parent⟩, (s₁.store key (.failed e)).note (.failureStored key)) := by
  simp only [consumeMissed, Eval.exec_bind, Eval.exec_emit, ho, he, if_true, Eval.exec_onMemo,
    MemoTable.keepFailure_of_not_matched hnot]
  rfl

/-- A memoizing consumer without an entry. -/
theorem consumeMissed_looksUp (hrun : Appends run) (id : ConsumerId) (production : Production)
    (input : Window) (parent : NodeBuilder) {r : Except Halt Outcome}
    (hnone : s.memo.entries[input.key id]? = none)
    (h : (consumeMissed run production (input.key id) input parent).exec
      (s.note (.requested (input.key id))) = (r, s')) :
    ∃ r', LooksUp run id production input s r' s' ∧ r = r'.map (Reply.outcome parent) := by
  rcases ho : (production.produce run input .empty).exec
    ((s.note (.requested (input.key id))).note (.produced (input.key id))) with
    ⟨e | ⟨e | rest, me⟩, s₁⟩
  all_goals have hf := Production.produce_follows hrun production input ho
  · simp only [consumeMissed, Eval.exec_bind, Eval.exec_emit, ho] at h
    obtain ⟨rfl, rfl⟩ := Prod.mk.inj h
    exact ⟨_, .halted hnone hf, rfl⟩
  · cases he : e.isRecoverable with
    | false =>
      rw [consumeMissed_exec_of_raised ho he] at h
      obtain ⟨rfl, rfl⟩ := Prod.mk.inj h
      exact ⟨_, .fatal hnone hf he, rfl⟩
    | true =>
      by_cases hold : ∃ old, s₁.memo.entries[input.key id]? = some (.matched old)
      · obtain ⟨old, hold⟩ := hold
        simp only [consumeMissed, Eval.exec_bind, Eval.exec_emit, ho, he, if_true,
          Eval.exec_onMemo, MemoTable.keepFailure_of_matched hold] at h
        obtain ⟨rfl, rfl⟩ := Prod.mk.inj h
        exact ⟨_, .refusedFailure hnone hf he hold, rfl⟩
      · have hold' := not_exists.mp hold
        rw [consumeMissed_exec_of_failed ho he hold'] at h
        obtain ⟨rfl, rfl⟩ := Prod.mk.inj h
        exact ⟨_, .storedFailure hnone hf he hold', rfl⟩
  · simp only [consumeMissed, Eval.exec_bind, Eval.exec_emit, ho, Eval.exec_check] at h
    rw [Production.sealed] at hf
    cases hb : (me.withSpan input.start rest.start).build with
    | error v =>
      rw [hb] at h hf
      obtain ⟨rfl, rfl⟩ := Prod.mk.inj h
      exact ⟨_, .halted hnone hf, rfl⟩
    | ok node =>
      rw [hb] at h hf
      dsimp only [mapError_ok] at h
      rw [Eval.exec_onMemo] at h
      -- The production may have stored something under the same key itself.
      rcases hentry : s₁.memo.entries[input.key id]? with _ | entry
      · rw [MemoTable.keep_of_none hentry] at h
        obtain ⟨rfl, rfl⟩ := Prod.mk.inj ((hand_exec production rest parent node).symm.trans h)
        exact ⟨_, .stored hnone hf hentry, rfl⟩
      · by_cases hsame : ∃ old, entry = .matched old ∧ old.same node = true
        · obtain ⟨old, rfl, hsame⟩ := hsame
          rw [MemoTable.keep_of_same hentry hsame] at h
          obtain ⟨rfl, rfl⟩ := Prod.mk.inj ((hand_exec production rest parent old).symm.trans h)
          exact ⟨_, .known hnone hf hentry hsame, rfl⟩
        · have hne : ∀ old, entry = .matched old → old.same node = false := fun old he =>
            Bool.eq_false_iff.mpr fun hs => hsame ⟨old, he, hs⟩
          rw [MemoTable.keep_of_contradiction hentry hne] at h
          obtain ⟨rfl, rfl⟩ := Prod.mk.inj h
          exact ⟨_, .refused hnone hf hentry hne, rfl⟩

/-- **A memoizing consumer that looks its result up goes on in one of these ways.** -/
theorem consumeCached_looksUp (hrun : Appends run) (id : ConsumerId) (production : Production)
    (input : Window) (parent : NodeBuilder) {r : Except Halt Outcome}
    (h : (consumeCached run id production input parent).exec s = (r, s')) :
    ∃ r', LooksUp run id production input s r' s' ∧ r = r'.map (Reply.outcome parent) := by
  rcases hentry : s.memo.entries[input.key id]? with _ | ⟨me⟩ | ⟨e⟩
  · rw [consumeCached_exec_of_none hentry] at h
    exact consumeMissed_looksUp hrun id production input parent hentry h
  · rw [consumeCached_exec_of_matched hentry] at h
    obtain ⟨rfl, rfl⟩ := Prod.mk.inj h
    exact ⟨_, .found hentry, rfl⟩
  · rw [consumeCached_exec_of_failed hentry] at h
    obtain ⟨rfl, rfl⟩ := Prod.mk.inj h
    exact ⟨_, .foundFailure hentry, rfl⟩

end Grammar

/-! ## One consumer and all of them -/

/-- How a consumer goes on: by its plan, or by way of the memo table. -/
inductive Consumes (run : Run) (env : Environment) :
    Grammar → Window → Session → Except Halt Reply → Session → Prop
  | follows {g : Grammar} {w : Window} {s s' : Session} {r : Except Halt Reply} :
      (∀ id production, g = .memoized id production → env.caching = false) →
      Follows run (g.plan env.bindings w) s r s' → Consumes run env g w s r s'
  | looksUp {id : ConsumerId} {production : Production} {w : Window} {s s' : Session}
      {r : Except Halt Reply} :
      env.caching = true → LooksUp run id production w s r s' →
      Consumes run env (.memoized id production) w s r s'

theorem Reply.result_outcome (reply : Reply) (parent : NodeBuilder) :
    (reply.outcome parent).result = reply.map Prod.fst := by
  rcases reply with e | ⟨rest, nodes⟩ <;> rfl

/-- The session after a consumer that ends with `r`: its end is written into the log. -/
def Session.close (s : Session) (g : Grammar) (w : Window) : Except Halt Reply → Session
  | .ok reply => s.note (g.ending w (reply.map Prod.fst))
  | .error _ => s

namespace Grammar

variable {run : Run} {env : Environment} {s s' : Session}

theorem step_exec (g : Grammar) (w : Window) (parent : NodeBuilder) :
    (step run env g w parent).exec s =
      match (consumeBy run env g w parent).exec (s.note .started) with
      | (.ok o, s₁) => (.ok o, s₁.note (g.ending w o.result))
      | (.error h, s₁) => (.error h, s₁) := by
  rw [step, Eval.exec_bind, Eval.exec_emit]
  dsimp only
  rw [Eval.exec_bind]
  rcases (consumeBy run env g w parent).exec (s.note .started) with ⟨e | o, s₁⟩ <;> rfl

theorem consumeBy_consumes (hrun : Appends run) {g : Grammar} (hg : g.hasPlan) (w : Window)
    (parent : NodeBuilder) {r : Except Halt Outcome}
    (h : (consumeBy run env g w parent).exec s = (r, s')) :
    ∃ r', Consumes run env g w s r' s' ∧ r = r'.map (Reply.outcome parent) := by
  by_cases hm : ∃ id production, g = memoized id production ∧ env.caching = true
  · obtain ⟨id, production, rfl, hc⟩ := hm
    rw [consumeBy, if_pos hc] at h
    obtain ⟨r', hl, hr⟩ := consumeCached_looksUp hrun id production w parent h
    exact ⟨r', .looksUp hc hl, hr⟩
  · have hplain : ∀ id production, g = memoized id production → env.caching = false :=
      fun id production he => Bool.eq_false_iff.mpr fun hc => hm ⟨id, production, he, hc⟩
    obtain ⟨r', hf, hr⟩ := consumeBy_follows hrun hg hplain w parent h
    exact ⟨r', .follows hplain hf, hr⟩

/-- **What a consumer does**: it starts, goes on, and ends. -/
theorem step_consumes (hrun : Appends run) {g : Grammar} (hg : g.hasPlan) (w : Window)
    (parent : NodeBuilder) {r : Except Halt Outcome}
    (h : (step run env g w parent).exec s = (r, s')) :
    ∃ r' s₁, Consumes run env g w (s.note .started) r' s₁ ∧
      r = r'.map (Reply.outcome parent) ∧ s' = s₁.close g w r' := by
  rw [step_exec] at h
  rcases hc : (consumeBy run env g w parent).exec (s.note .started) with ⟨r₁, s₁⟩
  obtain ⟨r', hr', rfl⟩ := consumeBy_consumes hrun hg w parent hc
  rw [hc] at h
  rcases r' with e | reply
  · obtain ⟨rfl, rfl⟩ := Prod.mk.inj h
    exact ⟨_, _, hr', rfl, rfl⟩
  · dsimp only [map_ok] at h
    rw [Reply.result_outcome] at h
    obtain ⟨rfl, rfl⟩ := Prod.mk.inj h
    exact ⟨_, _, hr', rfl, rfl⟩

/-- Each consumer appends to its parent, or leaves it alone, if its parts do. -/
theorem appends_step (hrun : Appends run) : Appends (step run env) := by
  intro g w parent s
  have hclose : ∀ (x : Except Halt Outcome) (s₁ : Session),
      (consumeBy run env g w parent).exec (s.note .started) = (x, s₁) →
      (∃ r' : Except Halt Reply, x = r'.map (Reply.outcome parent)) →
      ∃ r' : Except Halt Reply, ((step run env g w parent).exec s).1 =
        r'.map (Reply.outcome parent) := by
    rintro x s₁ hx ⟨r', rfl⟩
    refine ⟨r', ?_⟩
    rw [step_exec, hx]
    cases r' <;> rfl
  refine hclose _ _ rfl ?_
  cases hg : g.hasPlan with
  | true =>
    obtain ⟨r', -, hr⟩ := consumeBy_consumes hrun hg w parent (r := _) rfl
    exact ⟨r', hr⟩
  | false =>
    cases g with
    | counted name body => exact hrun body w parent _
    | once flag first later =>
      change ∃ r' : Except Halt Reply, ((get >>= fun st : Session =>
        if st.spent.contains flag then run later w parent
        else modify (fun s => { s with spent := flag :: s.spent }) >>= fun _ =>
          run first w parent : Eval Outcome).exec (s.note .started)).1 =
          r'.map (Reply.outcome parent)
      rw [Eval.exec_bind, Eval.exec_get]
      dsimp only
      split
      · exact hrun later w parent _
      · exact hrun first w parent _
    | _ => cases hg

/-- **Consumers only append**, and leave their parent alone when they fail. -/
theorem appends_consume (env : Environment) : ∀ fuel, Appends (consume env fuel)
  | 0 => fun _ _ _ _ => ⟨.error .outOfFuel, rfl⟩
  | fuel + 1 => appends_step (appends_consume env fuel)

/-- **What each step keeps holds of consuming**, however much fuel there is. -/
theorem consume_induction {P : Run → Prop} (hnone : P fun _ _ _ => throw .outOfFuel)
    (hstep : ∀ run, Appends run → P run → P (step run env)) : ∀ fuel, P (consume env fuel)
  | 0 => hnone
  | fuel + 1 => hstep _ (appends_consume env fuel) (consume_induction hnone hstep fuel)

end Grammar

/-! ## A parse of a text -/

/-- How a parse ends, by what became of consuming its grammar. -/
inductive Parses (config : Config) :
    Except Halt Outcome → Session → Except Halt (Except ParseError Node) → Session → Prop
  | halts {s : Session} {h : Halt} : Parses config (.error h) s (.error h) s
  | fails {s : Session} {e : ParseError} {b : NodeBuilder} :
      e.isRecoverable = true → Parses config (.ok ⟨.error e, b⟩) s (.ok (.error e)) s
  /-- An error that no one may recover from is written into the log. -/
  | aborts {s : Session} {e : ParseError} {b : NodeBuilder} :
      e.isRecoverable = false →
      Parses config (.ok ⟨.error e, b⟩) s (.ok (.error e)) (s.note (.parseAborted e))
  /-- There is text left over. -/
  | leaves {s : Session} {rest : Window} {b : NodeBuilder} :
      config.requireCompleteInput = true → rest.isEmpty = false →
      Parses config (.ok ⟨.ok rest, b⟩) s
        (.ok (.error (.remainingInput (rest.preview config.errorPreviewChars) rest.start none))) s
  | finishes {s : Session} {rest : Window} {b : NodeBuilder} :
      (config.requireCompleteInput && !rest.isEmpty) = false →
      Parses config (.ok ⟨.ok rest, b⟩) s (.ok (Grammar.firstNode rest b))
        (s.note (.parseFinished rest.start s.memo.size s.memo.hits))

namespace Grammar

variable {env : Environment} {fuel : Nat} {config : Config} {g : Grammar} {text : String}
  {s s' : Session} {r : Except Halt (Except ParseError Node)}

/-- A parse that has room for its table consumes the grammar with a fresh one, and ends. -/
theorem parseWith_parses_of_room (hroom : config.memoCapacity ≤ MemoTable.maxCapacity)
    (h : (g.parseWith env fuel config text).exec s = (r, s')) :
    ∃ o s₁,
      (g.consume env fuel (.ofText text) .empty).exec
          { s.note (.parseStarted text.utf8ByteSize) with memo := .empty } = (o, s₁) ∧
        Parses config o s₁ r s' := by
  rw [parseWith, Eval.exec_bind, Eval.exec_emit] at h
  dsimp only at h
  rw [Eval.exec_bind, Eval.exec_check, MemoTable.withCapacity, if_pos hroom] at h
  dsimp only [mapError_ok] at h
  rw [Eval.exec_bind, Eval.exec_modify] at h
  dsimp only at h
  rw [Eval.exec_bind] at h
  rcases hconsume : (g.consume env fuel (.ofText text) .empty).exec
    { s.note (.parseStarted text.utf8ByteSize) with memo := .empty } with ⟨o, s₁⟩
  rw [hconsume] at h
  refine ⟨o, s₁, rfl, ?_⟩
  rcases o with halt | ⟨e | rest, b⟩
  · obtain ⟨rfl, rfl⟩ := Prod.mk.inj h
    exact .halts
  · dsimp only at h
    split at h
    · obtain ⟨rfl, rfl⟩ := Prod.mk.inj h
      exact .fails ‹_›
    · rw [Eval.exec_bind, Eval.exec_emit] at h
      obtain ⟨rfl, rfl⟩ := Prod.mk.inj h
      exact .aborts (Bool.eq_false_iff.mpr ‹_›)
  · dsimp only at h
    split at h
    · obtain ⟨rfl, rfl⟩ := Prod.mk.inj h
      have hleft : config.requireCompleteInput = true ∧ (!rest.isEmpty) = true :=
        Bool.and_eq_true_iff.mp ‹_›
      exact .leaves hleft.1 ((Bool.not_eq_true' _).mp hleft.2)
    · rw [Eval.exec_bind] at h
      dsimp only [Eval.memoStatistics] at h
      rw [Eval.exec_bind, Eval.exec_get] at h
      dsimp only [Eval.exec_pure] at h
      rw [Eval.exec_bind, Eval.exec_emit] at h
      obtain ⟨rfl, rfl⟩ := Prod.mk.inj h
      exact .finishes (Bool.eq_false_iff.mpr ‹_›)

/-- **What a parse does**: it consumes the grammar with a fresh table, unless there is no room for
one, and ends. -/
theorem parseWith_parses (h : (g.parseWith env fuel config text).exec s = (r, s')) :
    (∃ v, r = .error (.violation v) ∧ s' = s.note (.parseStarted text.utf8ByteSize)) ∨
      ∃ o s₁,
        (g.consume env fuel (.ofText text) .empty).exec
            { s.note (.parseStarted text.utf8ByteSize) with memo := .empty } = (o, s₁) ∧
          Parses config o s₁ r s' := by
  by_cases hroom : config.memoCapacity ≤ MemoTable.maxCapacity
  · exact .inr (parseWith_parses_of_room hroom h)
  · rw [parseWith, Eval.exec_bind, Eval.exec_emit] at h
    dsimp only at h
    rw [Eval.exec_bind, Eval.exec_check, MemoTable.withCapacity, if_neg hroom] at h
    obtain ⟨rfl, rfl⟩ := Prod.mk.inj h
    exact .inl ⟨_, rfl, rfl⟩

end Grammar
end Packrat
