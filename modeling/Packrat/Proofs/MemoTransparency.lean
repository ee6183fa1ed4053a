import Packrat.Proofs.MemoValidity

/-! # The memo table cannot be seen

Consuming with a memo table and consuming without one answer the same, for every grammar of a
repertoire and every table that earlier consumers of the repertoire have filled from the same text.
Both answer what the plan of the grammar settles with (`Repertoire.answers_iff_settles`).

That an answer is what the plan settles with is soundness.  That a plan which settles is answered,
with enough fuel, goes by induction on how it settles: a look-up only saves fuel, and what has to be
worked out takes as much as its own questions take.
-/
namespace Packrat

/-- With enough fuel, `g` ends in `r` when it consumes `w` in the session `s`. -/
def Grammar.Answers (env : Environment) (g : Grammar) (w : Window) (parent : NodeBuilder)
    (s : Session) (r : Except Halt Outcome) : Prop :=
  r ≠ .error .outOfFuel ∧ ∃ fuel, ((consume env fuel g w parent).exec s).1 = r

/-- The sessions whose memo table was filled by members of `S` on the text `buffer` only, no matter
how they ended. -/
inductive Session.Reached (env : Environment) (S : Grammar → Prop) (buffer : Array Char) :
    Session → Prop
  | fresh {s : Session} : s.memo = .empty → Reached env S buffer s
  | consumed {s : Session} {g : Grammar} {w : Window} (fuel : Nat) (parent : NodeBuilder) :
      Reached env S buffer s → S g → w.buffer = buffer →
      Reached env S buffer ((g.consume env fuel w parent).exec s).2

section Following

variable {run : Run} {α : Type} {s s' : Session}

/-- A plan that is done ends as it says. -/
theorem Follows.done_eq {r r' : Except Halt α} (hf : Follows run (.done r) s r' s') : r' = r := by
  generalize hp : Plan.done r = p at hf
  induction hf with
  | done => cases hp; rfl
  | remark _ _ ih => exact ih hp
  | ask => cases hp
  | halt => cases hp

/-- A plan that asks goes on with the reply, or halts where its question does. -/
theorem Follows.ask_cases {g : Grammar} {w : Window} {next : Reply → Plan α} {r : Except Halt α}
    (hf : Follows run (.ask g w next) s r s') :
    ∃ parent s₀, s₀.memo = s.memo ∧
      ((∃ reply s₁, (run g w parent).exec s₀ = (.ok (Reply.outcome parent reply), s₁) ∧
          Follows run (next reply) s₁ r s') ∨
        ∃ h, (run g w parent).exec s₀ = (.error h, s') ∧ r = .error h) := by
  generalize hp : Plan.ask g w next = p at hf
  induction hf with
  | done => cases hp
  | remark _ _ ih => exact ih hp
  | ask hexec hn => cases hp; exact ⟨_, _, rfl, .inl ⟨_, _, hexec, hn⟩⟩
  | halt hexec => cases hp; exact ⟨_, _, rfl, .inr ⟨_, hexec, rfl⟩⟩

end Following

/-- To halt is the same whatever the result would have been. -/
theorem error_ne_outOfFuel {α β : Type} {e : Halt}
    (h : (.error e : Except Halt α) ≠ .error .outOfFuel) :
    (.error e : Except Halt β) ≠ .error .outOfFuel :=
  fun heq => h (congrArg _ (Except.error.inj heq))

theorem ok_ne_outOfFuel {α : Type} (a : α) : (.ok a : Except Halt α) ≠ .error .outOfFuel := by
  intro h
  cases h

theorem mapError_violation_ne {α : Type} (x : Except Violation α) :
    x.mapError Halt.violation ≠ .error .outOfFuel := by
  cases x <;> nofun

/-- A consumer gives up only where its plan does. -/
theorem Consumes.ne_outOfFuel {run : Run} {env : Environment} {g : Grammar} {w : Window}
    {s s' : Session} {r : Except Halt Reply} (hc : Consumes run env g w s r s')
    (hplan : ∀ s₀ s₁ r₁, s₀.memo = s.memo →
      Follows run (g.plan env.bindings w) s₀ r₁ s₁ → r₁ ≠ .error .outOfFuel) :
    r ≠ .error .outOfFuel := by
  cases hc with
  | follows _ hf => exact hplan _ _ _ rfl hf
  | @looksUp id production _ _ _ _ _ hl =>
    cases hl with
    | found _ => exact mapError_violation_ne _
    | halted _ hf =>
      intro heq
      cases heq
      exact hplan ((s.note _).note _) _ _ rfl (hf.andThen_halt production.planApplied) rfl
    | stored _ _ _ => exact mapError_violation_ne _
    | known _ _ _ _ => exact mapError_violation_ne _
    | _ => nofun

namespace Repertoire

variable {env : Environment} {S : Grammar → Prop} {buffer : Array Char}
  (h : Repertoire env.bindings S)
include h

/-- What consuming ends in, and that it leaves the table valid. -/
theorem consume_exec {g : Grammar} (hg : S g) {w : Window} (hw : w.buffer = buffer) (fuel : Nat)
    (parent : NodeBuilder) {s : Session} (hv : s.Valid env S buffer) :
    ∃ r s', (g.consume env fuel w parent).exec s = (r.map (Reply.outcome parent), s') ∧
      (r = .error .outOfFuel ∨ Settles env.bindings (g.plan env.bindings w) r) ∧
      s'.Valid env S buffer := by
  obtain ⟨r, hr⟩ := Grammar.appends_consume env fuel g w parent s
  have hexec : (g.consume env fuel w parent).exec s = (r.map (Reply.outcome parent), _) :=
    Prod.ext hr rfl
  obtain ⟨hsettles, hv', -⟩ := Grammar.sound_consume h fuel g w parent s _ r hg hw hv hexec
  exact ⟨r, _, hexec, hsettles, hv'⟩

/-- A consumer whose plan settles is answered if there is one more of the fuel than its plan
takes. -/
theorem consume_exec_of_settles {g : Grammar} (hg : S g) {w : Window} (hw : w.buffer = buffer)
    {r : Except Halt Reply} (hs : Settles env.bindings (g.plan env.bindings w) r) {n : Nat}
    (hplan : ∀ s s' r, s.Valid env S buffer →
      Follows (Grammar.consume env n) (g.plan env.bindings w) s r s' → r ≠ .error .outOfFuel)
    (parent : NodeBuilder) {s : Session} (hv : s.Valid env S buffer) :
    ∃ s', (g.consume env (n + 1) w parent).exec s = (r.map (Reply.outcome parent), s') ∧
      s'.Valid env S buffer := by
  obtain ⟨r₁, s', hexec, hsettles, hv'⟩ := h.consume_exec hg hw (n + 1) parent hv
  obtain ⟨r₂, s₁, hc, hr, -⟩ := Grammar.step_consumes (Grammar.appends_consume env n)
    (Grammar.hasPlan_of_isCombinator (h.isCombinator g hg)) w parent hexec
  obtain rfl := map_outcome_injective hr
  have hne : r₁ ≠ .error .outOfFuel := hc.ne_outOfFuel fun s₀ s' r₁ hmemo hf =>
    hplan s₀ s' r₁ (by rw [Session.Valid, hmemo]; exact hv) hf
  obtain rfl := (hsettles.resolve_left hne).unique hs
  exact ⟨s', hexec, hv'⟩

/-- **A plan that settles is followed to its end**, given enough fuel. -/
theorem exists_fuel {α : Type} {p : Plan α} {r : Except Halt α}
    (hs : Settles env.bindings p r) (hr : r ≠ .error .outOfFuel)
    (hp : ∀ g w, Asks env.bindings p g w → S g ∧ w.buffer = buffer) :
    ∃ N, ∀ n ≥ N, ∀ s s' r', s.Valid env S buffer →
      Follows (Grammar.consume env n) p s r' s' → r' ≠ .error .outOfFuel := by
  induction hs with
  | done => exact ⟨0, fun n _ s s' r' _ hf => hf.done_eq ▸ hr⟩
  | ask hg _ ihg ihn =>
    obtain ⟨hmem, hw⟩ := hp _ _ .here
    obtain ⟨N₁, h₁⟩ := ihg nofun fun _ _ => h.asks_members hmem hw
    obtain ⟨N₂, h₂⟩ := ihn hr fun g w ha => hp g w (.later hg ha)
    -- One nesting more than the question takes, and as much as what follows takes.
    refine ⟨max (N₁ + 1) N₂, fun n hn s s' r' hv hf => ?_⟩
    obtain ⟨m, rfl⟩ : ∃ m, n = m + 1 := ⟨n - 1, by omega⟩
    obtain ⟨parent, s₀, hmemo, hcase⟩ := hf.ask_cases
    have hv₀ : s₀.Valid env S buffer := by rw [Session.Valid, hmemo]; exact hv
    obtain ⟨s₁, hexec, hv₁⟩ :=
      h.consume_exec_of_settles hmem hw hg (h₁ m (by omega)) parent hv₀
    rcases hcase with ⟨reply, s₂, hexec', hn'⟩ | ⟨e, hexec', -⟩
    · obtain ⟨heq, rfl⟩ := Prod.mk.inj (hexec.symm.trans hexec')
      obtain rfl := Reply.outcome_injective parent (Except.ok.inj heq)
      exact h₂ (m + 1) (by omega) _ _ _ hv₁ hn'
    · cases hexec.symm.trans hexec'
  | halt hg ihg =>
    obtain ⟨hmem, hw⟩ := hp _ _ .here
    obtain ⟨N, hN⟩ := ihg (error_ne_outOfFuel hr) fun _ _ => h.asks_members hmem hw
    refine ⟨N + 1, fun n hn s s' r' hv hf => ?_⟩
    obtain ⟨m, rfl⟩ : ∃ m, n = m + 1 := ⟨n - 1, by omega⟩
    obtain ⟨parent, s₀, hmemo, hcase⟩ := hf.ask_cases
    have hv₀ : s₀.Valid env S buffer := by rw [Session.Valid, hmemo]; exact hv
    obtain ⟨s₁, hexec, -⟩ := h.consume_exec_of_settles hmem hw hg (hN m (by omega)) parent hv₀
    rcases hcase with ⟨reply, s₂, hexec', -⟩ | ⟨e, hexec', rfl⟩
    · cases hexec.symm.trans hexec'
    · cases hexec.symm.trans hexec'
      exact error_ne_outOfFuel hr

/-- A consumer whose plan settles is answered with any sufficient fuel. -/
theorem exists_fuel_consume {g : Grammar} (hg : S g) {w : Window} (hw : w.buffer = buffer)
    {r : Except Halt Reply} (hs : Settles env.bindings (g.plan env.bindings w) r)
    (hr : r ≠ .error .outOfFuel) :
    ∃ N, ∀ n ≥ N, ∀ parent s, s.Valid env S buffer →
      ((g.consume env n w parent).exec s).1 = r.map (Reply.outcome parent) := by
  obtain ⟨N, hN⟩ := h.exists_fuel hs hr fun _ _ => h.asks_members hg hw
  refine ⟨N + 1, fun n hn parent s hv => ?_⟩
  obtain ⟨m, rfl⟩ : ∃ m, n = m + 1 := ⟨n - 1, by omega⟩
  obtain ⟨s', hexec, -⟩ := h.consume_exec_of_settles hg hw hs (hN m (by omega)) parent hv
  rw [hexec]

/-- What members have filled a table with is valid. -/
theorem valid_of_reached {s : Session} (hs : s.Reached env S buffer) : s.Valid env S buffer := by
  induction hs with
  | fresh hmemo =>
    intro _ id production _ w _ entry hentry
    rw [hmemo] at hentry
    simp at hentry
  | consumed fuel parent _ hg hw ih =>
    obtain ⟨r, s', hexec, -, hv'⟩ := h.consume_exec hg hw fuel parent ih
    rw [hexec]
    exact hv'

/-- **Answers are what plans settle with.** -/
theorem answers_iff_settles {g : Grammar} (hg : S g) {w : Window} (hw : w.buffer = buffer)
    {parent : NodeBuilder} {s : Session} (hv : s.Valid env S buffer) {r : Except Halt Outcome} :
    g.Answers env w parent s r ↔
      ∃ r', r = r'.map (Reply.outcome parent) ∧ r' ≠ .error .outOfFuel ∧
        Settles env.bindings (g.plan env.bindings w) r' := by
  constructor
  · rintro ⟨hr, fuel, rfl⟩
    obtain ⟨r', s', hexec, hsettles, -⟩ := h.consume_exec hg hw fuel parent hv
    rw [hexec] at hr
    have hr' : r' ≠ .error .outOfFuel := fun heq => hr (by rw [heq]; rfl)
    exact ⟨r', congrArg Prod.fst hexec, hr', hsettles.resolve_left hr'⟩
  · rintro ⟨r', rfl, hr', hsettles⟩
    obtain ⟨N, hN⟩ := h.exists_fuel_consume hg hw hsettles hr'
    refine ⟨?_, N, hN N (Nat.le_refl N) parent s hv⟩
    rcases r' with e | reply
    · exact error_ne_outOfFuel hr'
    · nofun

end Repertoire

/-- With a table that members have filled a member answers what it answers without any. -/
theorem Repertoire.answers_iff_plain {bindings : Bindings} {S : Grammar → Prop}
    (h : Repertoire bindings S) {buffer : Array Char} {s : Session}
    (hs : s.Reached ⟨bindings, true⟩ S buffer) {g : Grammar} (hg : S g) {w : Window}
    (hw : w.buffer = buffer) (parent : NodeBuilder) (t : Session) {r : Except Halt Outcome} :
    g.Answers ⟨bindings, true⟩ w parent s r ↔ g.Answers ⟨bindings, false⟩ w parent t r := by
  have hcached : Repertoire (Environment.mk bindings true).bindings S := h
  have hplain : Repertoire (Environment.mk bindings false).bindings S := h
  have hv' : t.Valid ⟨bindings, false⟩ S buffer := nofun
  exact (hcached.answers_iff_settles hg hw (hcached.valid_of_reached hs)).trans
    (hplain.answers_iff_settles hg hw hv').symm

/-- What can be run without a table can be run with one. -/
theorem Repertoire.exists_exec_of_plain {bindings : Bindings} {S : Grammar → Prop}
    (h : Repertoire bindings S) {buffer : Array Char} {s : Session}
    (hs : s.Reached ⟨bindings, true⟩ S buffer) {g : Grammar} (hg : S g) {w : Window}
    (hw : w.buffer = buffer) {parent : NodeBuilder} {fuel : Nat} {t t' : Session} {o : Outcome}
    (hplain : (g.consume ⟨bindings, false⟩ fuel w parent).exec t = (.ok o, t')) :
    ∃ fuel s', (g.consume ⟨bindings, true⟩ fuel w parent).exec s = (.ok o, s') := by
  obtain ⟨-, fuel, ho⟩ := (h.answers_iff_plain hs hg hw parent t).mpr
    ⟨ok_ne_outOfFuel o, fuel, congrArg Prod.fst hplain⟩
  exact ⟨fuel, _, Prod.ext ho rfl⟩

/-- **The memo table cannot be seen.**  Let members of a repertoire have filled the table of `s`
from the text of `w`.  Then a member answers for `w` what it answers without any table: the same
rest or the same error, and the same nodes behind those of its parent; it answers with a table if
and only if it does without.  In particular no consumer is ever found to contradict itself. -/
theorem caching_invisible {bindings : Bindings} {S : Grammar → Prop} (h : Repertoire bindings S)
    {buffer : Array Char} {s : Session} (hs : s.Reached ⟨bindings, true⟩ S buffer) {g : Grammar}
    (hg : S g) {w : Window} (hw : w.buffer = buffer) (parent : NodeBuilder) (t : Session) :
    (∀ r, g.Answers ⟨bindings, true⟩ w parent s r ↔ g.Answers ⟨bindings, false⟩ w parent t r) ∧
      ∀ fuel o, ((g.consume ⟨bindings, true⟩ fuel w parent).exec s).1 = .ok o →
        ∀ key : MemoKey, o.result ≠ .error key.contradiction := by
  have hcached : Repertoire (Environment.mk bindings true).bindings S := h
  refine ⟨fun r => h.answers_iff_plain hs hg hw parent t, fun fuel o ho key heq => ?_⟩
  obtain ⟨r, s', hexec, hsettles, -⟩ :=
    hcached.consume_exec hg hw fuel parent (hcached.valid_of_reached hs)
  rw [hexec] at ho
  rcases r with e | e | ⟨rest, nodes⟩
  · cases ho
  · cases ho
    cases heq
    obtain hs | hs := hsettles
    · cases hs
    · exact h.fits hg hs ⟨key, rfl⟩
  · cases ho
    cases heq

/-- Lists of letters after a list of one letter was looked for at the same place. -/
theorem letters_caching_invisible :
    let w := Window.ofText "aab"
    let s := (Grammar.consume ⟨Letters.bindings, true⟩ 9 (.windowed 1 (.reference "list")) w
      .empty).exec {}
    Repertoire Letters.bindings (· ∈ Letters.grammars) ∧
      s.2.Reached ⟨Letters.bindings, true⟩ (· ∈ Letters.grammars) w.buffer ∧
      Letters.list ∈ Letters.grammars ∧
      ((∀ r, Letters.list.Answers ⟨Letters.bindings, true⟩ w .empty s.2 r ↔
          Letters.list.Answers ⟨Letters.bindings, false⟩ w .empty {} r) ∧
        ∀ fuel o,
          ((Letters.list.consume ⟨Letters.bindings, true⟩ fuel w .empty).exec s.2).1 = .ok o →
            ∀ key : MemoKey, o.result ≠ .error key.contradiction) := by
  intro w s
  have hs : s.2.Reached ⟨Letters.bindings, true⟩ (· ∈ Letters.grammars) w.buffer :=
    .consumed 9 .empty (.fresh rfl) (by simp [Letters.grammars]) rfl
  have hg : Letters.list ∈ Letters.grammars := .head _
  exact ⟨Letters.repertoire, hs, hg, caching_invisible Letters.repertoire hs hg rfl .empty {}⟩

end Packrat
