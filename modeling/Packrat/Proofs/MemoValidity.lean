import Packrat.Proofs.LooksUp
import Packrat.Proofs.Repertoire

/-! # What is in the memo table

Let all grammars that share a memo table belong to one repertoire and consume windows of one text.
Then an entry is what its production makes of its window when no table is used (`Session.Valid`),
and a run of a consumer, whatever it finds in the table, replies as its plan does (`Sound`).

The delicate point is a result that is worked out while the table has none for its key.  When it is
stored, an entry may have appeared: the equality of nodes that then decides is the one that
attachments bring along, and need not be reflexive.  But no entry appears.  A run changes only
entries of keys that its plan leads to (`Plan.Concerns`), and the plan of a production that settles
never leads back to its own key (`Repertoire.not_concerns_self`).
-/
namespace Packrat

/-- The entry is what `production` makes of `w`. -/
def MemoEntry.StandsFor (bindings : Bindings) (production : Production) (w : Window) :
    MemoEntry Node → Prop
  | .matched me => ∃ rest, Settles bindings (production.plan w) (.ok (.ok (rest, me)))
  | .failed e => Settles bindings (production.plan w) (.ok (.error e))

/-- Each entry for a member of `S` on the text `buffer` is what its production makes of its window.
A consumer that does not look at the table asks nothing of it. -/
def Session.Valid (env : Environment) (S : Grammar → Prop) (buffer : Array Char)
    (s : Session) : Prop :=
  env.caching = true → ∀ id production, S (.memoized id production) →
    ∀ w : Window, w.buffer = buffer → ∀ entry, s.memo.entries[w.key id]? = some entry →
      entry.StandsFor env.bindings production w

/-- The entries in the two sessions agree, except for keys of which `P` holds. -/
def Session.KeepsBut (P : MemoKey → Prop) (s s' : Session) : Prop :=
  ∀ key, ¬ P key → s'.memo.entries[key]? = s.memo.entries[key]?

/-! ## The keys that a consumer leads to -/

/-- Consuming `w` by `g` leads to a look-up of `key`. -/
def Grammar.Concerns (bindings : Bindings) (g : Grammar) (w : Window) (key : MemoKey) : Prop :=
  ∃ id production w', Relation.ReflTransGen (Calls bindings) (g, w) (.memoized id production, w') ∧
    key = w'.key id

/-- The plan leads to a look-up of `key`. -/
def Plan.Concerns {α : Type} (bindings : Bindings) (p : Plan α) (key : MemoKey) : Prop :=
  ∃ g w, Asks bindings p g w ∧ g.Concerns bindings w key

section Concerning

variable {α : Type} {bindings : Bindings} {g : Grammar} {w : Window} {key : MemoKey}

theorem Grammar.concerns_self (id : ConsumerId) (production : Production) (w : Window) :
    (Grammar.memoized id production).Concerns bindings w (w.key id) :=
  ⟨id, production, w, .refl, rfl⟩

theorem Grammar.concerns_of_plan (h : (g.plan bindings w).Concerns bindings key) :
    g.Concerns bindings w key := by
  obtain ⟨g', w', ha, id, production, w'', hc, rfl⟩ := h
  have hcall : Calls bindings (g, w) (g', w') := ha
  exact ⟨id, production, w'', .head hcall hc, rfl⟩

theorem Grammar.concerns_of_production {id : ConsumerId} {production : Production}
    (h : (production.plan w).Concerns bindings key) :
    (Grammar.memoized id production).Concerns bindings w key := by
  obtain ⟨g', w', ha, hc⟩ := h
  exact concerns_of_plan ⟨g', w', ha.andThen _, hc⟩

/-- A question that settles never comes up again while it is being answered. -/
theorem Settles.not_calls_self {r : Except Halt Reply}
    (h : Settles bindings (g.plan bindings w) r) :
    ¬ Relation.TransGen (Calls bindings) (g, w) (g, w) := by
  have hacc := h.acc
  generalize (g, w) = x at hacc
  induction hacc with
  | intro x _ ih =>
    intro hx
    obtain ⟨y, hxy, hyx⟩ := Relation.TransGen.head'_iff.mp hx
    exact ih y hxy (Relation.TransGen.tail' hyx hxy)

end Concerning

/-- A production that settles makes its consumer settle. -/
theorem Settles.memoized {bindings : Bindings} (id : ConsumerId) {production : Production}
    {w : Window} {r : Except Halt (Except ParseError (Window × Node))}
    (h : Settles bindings (production.plan w) r) :
    ∃ r', Settles bindings ((Grammar.memoized id production).plan bindings w) r' := by
  rcases r with e | e | ⟨rest, me⟩
  · exact ⟨_, h.andThen_halt _⟩
  · exact ⟨_, h.andThen .done⟩
  · exact ⟨_, h.andThen .done⟩

namespace Repertoire

variable {bindings : Bindings} {S : Grammar → Prop} (h : Repertoire bindings S)
include h

/-- What is called by members belongs to the repertoire, and looks at the same text. -/
theorem calls {x y : Grammar × Window} (hx : S x.1)
    (hc : Relation.ReflTransGen (Calls bindings) x y) : S y.1 ∧ y.2.buffer = x.2.buffer := by
  induction hc with
  | refl => exact ⟨hx, rfl⟩
  | tail _ hcall ih => exact h.asks_members ih.1 ih.2 hcall

/-- Two consumers with the same key do the same. -/
theorem eq_of_key {id id' : ConsumerId} {production production' : Production} {w w' : Window}
    (hg : S (.memoized id production)) (hg' : S (.memoized id' production'))
    (hb : w'.buffer = w.buffer) (hk : w'.key id' = w.key id) :
    production' = production ∧ w' = w := by
  obtain ⟨buffer, start, stop, hle, hstop⟩ := w
  obtain ⟨buffer', start', stop', hle', hstop'⟩ := w'
  -- The key tells the ends of the window and the identity, and an identity tells the production.
  obtain ⟨rfl, rfl, rfl⟩ := MemoKey.mk.inj hk
  cases hb
  exact ⟨h.distinct _ _ _ hg' hg, rfl⟩

/-- **A production that settles does not lead back to its own key.** -/
theorem not_concerns_self {id : ConsumerId} {production : Production}
    (hg : S (.memoized id production)) {w : Window}
    {r : Except Halt (Except ParseError (Window × Node))}
    (hs : Settles bindings (production.plan w) r) :
    ¬ (production.plan w).Concerns bindings (w.key id) := by
  rintro ⟨g', w', ha, id', production', w'', hc, hk⟩
  obtain ⟨r', hs'⟩ := hs.memoized id
  have hcall : Calls bindings (.memoized id production, w) (g', w') := ha.andThen _
  obtain ⟨hg'', hb⟩ := h.calls hg (.head hcall hc)
  obtain ⟨rfl, rfl⟩ := h.eq_of_key hg hg'' hb hk.symm
  obtain rfl : id' = id := (MemoKey.mk.inj hk).2.2.symm
  -- The key is asked for by the same consumer at the same window, while it is being answered.
  exact hs'.not_calls_self (Relation.TransGen.head' hcall hc)

end Repertoire

/-! ## Sound runs -/

/-- A run replies as the plans say, unless its fuel is used up.  It keeps what is in the table
valid, and touches only entries that the consumer leads to. -/
def Sound (env : Environment) (S : Grammar → Prop) (buffer : Array Char) (run : Run) : Prop :=
  ∀ (g : Grammar) (w : Window) (parent : NodeBuilder) (s s' : Session) (r : Except Halt Reply),
    S g → w.buffer = buffer → s.Valid env S buffer →
    (run g w parent).exec s = (r.map (Reply.outcome parent), s') →
    (r = .error .outOfFuel ∨ Settles env.bindings (g.plan env.bindings w) r) ∧
      s'.Valid env S buffer ∧ s.KeepsBut (g.Concerns env.bindings w) s'

namespace Session

variable {env : Environment} {S : Grammar → Prop} {buffer : Array Char} {s s₁ s' : Session}
  {P Q : MemoKey → Prop}

theorem KeepsBut.refl (s : Session) : s.KeepsBut P s := fun _ _ => rfl

theorem KeepsBut.trans (h : s.KeepsBut P s₁) (h' : s₁.KeepsBut P s') : s.KeepsBut P s' :=
  fun key hk => (h' key hk).trans (h key hk)

theorem KeepsBut.mono (h : s.KeepsBut P s') (hPQ : ∀ key, P key → Q key) : s.KeepsBut Q s' :=
  fun key hk => h key fun hp => hk (hPQ key hp)

theorem keepsBut_store {key : MemoKey} {entry : MemoEntry Node} (hk : P key) :
    s.KeepsBut P (s.store key entry) := by
  intro key' hk'
  rw [store, Std.HashMap.getElem?_insert, if_neg]
  intro hkk
  exact hk' (eq_of_beq hkk ▸ hk)

/-- A result that its production makes may be stored. -/
theorem Valid.store (h : Repertoire env.bindings S) {id : ConsumerId} {production : Production}
    (hg : S (.memoized id production)) {w : Window} (hw : w.buffer = buffer)
    {entry : MemoEntry Node} (hv : s.Valid env S buffer)
    (hentry : entry.StandsFor env.bindings production w) :
    (s.store (w.key id) entry).Valid env S buffer := by
  intro hc id' production' hg' w' hw' entry' he
  rw [Session.store, Std.HashMap.getElem?_insert] at he
  split at he
  · cases he
    obtain ⟨rfl, rfl⟩ := h.eq_of_key hg hg' (hw'.trans hw.symm) (eq_of_beq ‹_›).symm
    exact hentry
  · exact hv hc id' production' hg' w' hw' entry' he

end Session

section Soundness

variable {env : Environment} {S : Grammar → Prop} {buffer : Array Char} {run : Run}

/-- A plan that asks members only is followed soundly by a sound run. -/
theorem Follows.sound (hrun : Sound env S buffer run) {α : Type} {p : Plan α} {s s' : Session}
    {r : Except Halt α} (hf : Follows run p s r s')
    (hp : ∀ g w, Asks env.bindings p g w → S g ∧ w.buffer = buffer)
    (hv : s.Valid env S buffer) :
    (r = .error .outOfFuel ∨ Settles env.bindings p r) ∧
      s'.Valid env S buffer ∧ s.KeepsBut (p.Concerns env.bindings) s' := by
  induction hf with
  | done => exact ⟨.inr .done, hv, .refl _⟩
  | remark _ _ ih => exact ih hp hv
  | ask hexec _ ih =>
    obtain ⟨hg, hw⟩ := hp _ _ .here
    obtain ⟨hr | hsettles, hv₁, hk₁⟩ := hrun _ _ _ _ _ (.ok _) hg hw hv hexec
    · cases hr
    · -- The question is answered as the plain meaning says, so what follows are questions of `p`.
      obtain ⟨hr, hv', hk'⟩ := ih (fun g w ha => hp g w (.later hsettles ha)) hv₁
      refine ⟨hr.imp_right (.ask hsettles), hv', ?_⟩
      refine (hk₁.mono fun key hc => ⟨_, _, .here, hc⟩).trans (hk'.mono ?_)
      rintro key ⟨g, w, ha, hc⟩
      exact ⟨g, w, .later hsettles ha, hc⟩
  | halt hexec =>
    obtain ⟨hg, hw⟩ := hp _ _ .here
    obtain ⟨hr, hv₁, hk₁⟩ := hrun _ _ _ _ _ (.error _) hg hw hv hexec
    refine ⟨?_, hv₁, hk₁.mono fun key hc => ⟨_, _, .here, hc⟩⟩
    rcases hr with hr | hsettles
    · exact .inl (by cases hr; rfl)
    · exact .inr (.halt hsettles)

variable (h : Repertoire env.bindings S)
include h

/-- A production is run soundly, and its own entry stays as it is until it is done. -/
theorem Follows.produced (hrun : Sound env S buffer run) {id : ConsumerId}
    {production : Production} (hg : S (.memoized id production)) {w : Window}
    (hw : w.buffer = buffer) {s s₁ : Session}
    {r : Except Halt (Except ParseError (Window × Node))}
    (hf : Follows run (production.plan w) s r s₁) (hv : s.Valid env S buffer) :
    (r = .error .outOfFuel ∨ Settles env.bindings (production.plan w) r) ∧
      s₁.Valid env S buffer ∧
      s.KeepsBut ((Grammar.memoized id production).Concerns env.bindings w) s₁ ∧
      ∀ x, r = .ok x → s₁.memo.entries[w.key id]? = s.memo.entries[w.key id]? := by
  have hp : ∀ g' w', Asks env.bindings (production.plan w) g' w' → S g' ∧ w'.buffer = buffer :=
    fun g' w' ha => h.asks_members hg hw (ha.andThen production.planApplied)
  obtain ⟨hr, hv₁, hk₁⟩ := hf.sound hrun hp hv
  refine ⟨hr, hv₁, hk₁.mono fun key => Grammar.concerns_of_production, ?_⟩
  rintro x rfl
  rcases hr with hr | hsettles
  · cases hr
  · exact hk₁ _ (h.not_concerns_self hg hsettles)

/-- A result in the table is handed over as if it had just been worked out. -/
theorem Repertoire.foundReply_eq {id : ConsumerId} {production : Production}
    (hg : S (.memoized id production)) {w rest : Window} {me : Node}
    (hs : Settles env.bindings (production.plan w) (.ok (.ok (rest, me)))) :
    production.foundReply w me = production.handReply rest me := by
  obtain ⟨hc, hspan⟩ := h.production_fits hg hs
  rw [Production.foundReply, Production.handReply, hspan]
  cases production.handed me with
  | error v => rfl
  | ok nodes =>
    rw [ok_bind]
    show Except.mapError _ (w.advance rest.start >>= _) = _
    rw [hc.advance_eq]
    rfl

/-- A consumer that looks its result up is sound if its production is run soundly. -/
theorem LooksUp.sound (hrun : Sound env S buffer run) (hcaching : env.caching = true)
    {id : ConsumerId} {production : Production} (hg : S (.memoized id production)) {w : Window}
    (hw : w.buffer = buffer) {s s' : Session} {r : Except Halt Reply}
    (hl : LooksUp run id production w s r s') (hv : s.Valid env S buffer) :
    (r = .error .outOfFuel ∨
        Settles env.bindings ((Grammar.memoized id production).plan env.bindings w) r) ∧
      s'.Valid env S buffer ∧
      s.KeepsBut ((Grammar.memoized id production).Concerns env.bindings w) s' := by
  have hself : (Grammar.memoized id production).Concerns env.bindings w (w.key id) :=
    Grammar.concerns_self id production w
  -- A production that is run to its end settles, and no entry has appeared for its key.
  have hproduced : ∀ {x : Except ParseError (Window × Node)} {s₁ : Session},
      s.memo.entries[w.key id]? = none →
      Follows run (production.plan w)
        ((s.note (.requested (w.key id))).note (.produced (w.key id))) (.ok x) s₁ →
      Settles env.bindings (production.plan w) (.ok x) ∧ s₁.Valid env S buffer ∧
        s.KeepsBut ((Grammar.memoized id production).Concerns env.bindings w) s₁ ∧
        s₁.memo.entries[w.key id]? = none := by
    intro x s₁ hnone hf
    obtain ⟨hr | hsettles, hv₁, hk₁, hsame⟩ := Follows.produced h hrun hg hw hf hv
    · cases hr
    · exact ⟨hsettles, hv₁, hk₁, (hsame x rfl).trans hnone⟩
  cases hl with
  | found hentry =>
    obtain ⟨rest, hs⟩ := hv hcaching id production hg w hw _ hentry
    rw [h.foundReply_eq hg hs]
    exact ⟨.inr (hs.andThen .done), hv, .refl _⟩
  | foundFailure hentry =>
    have hs : Settles _ _ _ := hv hcaching id production hg w hw _ hentry
    exact ⟨.inr (hs.andThen .done), hv, .refl _⟩
  | halted hnone hf =>
    obtain ⟨hr, hv₁, hk₁, -⟩ := Follows.produced h hrun hg hw hf hv
    refine ⟨?_, hv₁, hk₁⟩
    rcases hr with hr | hsettles
    · exact .inl (by cases hr; rfl)
    · exact .inr (hsettles.andThen_halt _)
  | fatal hnone hf _ =>
    obtain ⟨hsettles, hv₁, hk₁, -⟩ := hproduced hnone hf
    exact ⟨.inr (hsettles.andThen .done), hv₁, hk₁⟩
  | storedFailure hnone hf _ _ =>
    obtain ⟨hsettles, hv₁, hk₁, -⟩ := hproduced hnone hf
    exact ⟨.inr (hsettles.andThen .done), hv₁.store h hg hw hsettles,
      hk₁.trans (Session.keepsBut_store hself)⟩
  | stored hnone hf _ =>
    obtain ⟨hsettles, hv₁, hk₁, -⟩ := hproduced hnone hf
    exact ⟨.inr (hsettles.andThen .done), hv₁.store h hg hw ⟨_, hsettles⟩,
      hk₁.trans (Session.keepsBut_store hself)⟩
  | refusedFailure hnone hf _ hsome =>
    obtain ⟨-, -, -, hnone'⟩ := hproduced hnone hf
    rw [hnone'] at hsome
    cases hsome
  | known hnone hf hsome _ =>
    obtain ⟨-, -, -, hnone'⟩ := hproduced hnone hf
    rw [hnone'] at hsome
    cases hsome
  | refused hnone hf hsome _ =>
    obtain ⟨-, -, -, hnone'⟩ := hproduced hnone hf
    rw [hnone'] at hsome
    cases hsome

end Soundness

/-! ## All runs are sound -/

theorem NodeBuilder.extend_injective (parent : NodeBuilder) :
    Function.Injective parent.extend := by
  intro nodes nodes' heq
  have hlist := congrArg (fun b : NodeBuilder => b.children.toList) heq
  simpa using hlist

/-- The outcome shows the reply. -/
theorem Reply.outcome_injective (parent : NodeBuilder) :
    Function.Injective (Reply.outcome parent) := by
  rintro (e | ⟨rest, nodes⟩) (e' | ⟨rest', nodes'⟩) heq
  · cases heq
    rfl
  · cases heq
  · cases heq
  · obtain ⟨hrest, hnodes⟩ := Outcome.mk.inj heq
    cases hrest
    rw [parent.extend_injective hnodes]

theorem map_outcome_injective {parent : NodeBuilder} {r r' : Except Halt Reply}
    (h : r.map (Reply.outcome parent) = r'.map (Reply.outcome parent)) : r = r' := by
  rcases r with e | reply <;> rcases r' with e' | reply'
  · cases h
    rfl
  · cases h
  · cases h
  · exact congrArg _ (Reply.outcome_injective parent (Except.ok.inj h))

namespace Grammar

variable {env : Environment} {S : Grammar → Prop} {buffer : Array Char} {run : Run}

theorem hasPlan_of_isCombinator {g : Grammar} (hg : g.isCombinator) : g.hasPlan := by
  cases g <;> first | rfl | cases hg

/-- **One step keeps runs sound.** -/
theorem sound_step (h : Repertoire env.bindings S) (happ : Appends run)
    (hrun : Sound env S buffer run) : Sound env S buffer (step run env) := by
  intro g w parent s s' r hg hw hv hexec
  have hplan : g.hasPlan := hasPlan_of_isCombinator (h.isCombinator g hg)
  obtain ⟨r', s₁, hc, hr, rfl⟩ := step_consumes happ hplan w parent hexec
  obtain rfl := map_outcome_injective hr
  have hsound : (r = .error .outOfFuel ∨ Settles env.bindings (g.plan env.bindings w) r) ∧
      s₁.Valid env S buffer ∧ s.KeepsBut (g.Concerns env.bindings w) s₁ := by
    cases hc with
    | follows _ hf =>
      obtain ⟨hr, hv₁, hk₁⟩ := hf.sound hrun (fun _ _ => h.asks_members hg hw) hv
      exact ⟨hr, hv₁, hk₁.mono fun key => concerns_of_plan⟩
    | looksUp hcaching hl => exact hl.sound h hrun hcaching hg hw hv
  -- The end of a consumer is a remark in the log and leaves the table alone.
  rcases r with e | reply <;> exact hsound

/-- **However much fuel there is, consuming is sound.** -/
theorem sound_consume (h : Repertoire env.bindings S) (fuel : Nat) :
    Sound env S buffer (consume env fuel) := by
  refine consume_induction ?_ (fun _ => sound_step h) fuel
  intro g w parent s s' r _ _ hv hexec
  obtain ⟨hr, rfl⟩ := Prod.mk.inj hexec
  rcases r with e | reply
  · cases hr
    exact ⟨.inl rfl, hv, .refl _⟩
  · cases hr

end Grammar

end Packrat
