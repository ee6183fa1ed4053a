import Mathlib.Data.Finset.Card
import Packrat.Parse
import Packrat.Proofs.MemoTransparency
import Packrat.Proofs.SharedTable

/-! # Each result is worked out once

The log tells which keys were looked up (`Session.requested`) and for which of them a production was
run (`Session.produced`).  `Session.Grows` says what a terminating consumer adds to both, and to the
table.  The productions that were run belong to different keys, none of which had an entry before.
If the consumer ends with a match or a recoverable error, then all of these keys have an entry
afterwards, there are no other new ones, and each further look-up was a hit.

Two runs of one key could only come about in three ways.  A run that has ended well is stored before
anyone can ask for its key again; a run that ended with an error no one may recover from ends
everything around it (`Grammar.plan_commits`); and a key is not asked for while its own production
runs (`Repertoire.not_concerns_self`).
-/
namespace Packrat

/-- The key of a production that was run. -/
def ParseEvent.producedKey? : ParseEvent → Option MemoKey
  | produced key => some key
  | _ => none

/-- The key that was looked up. -/
def ParseEvent.requestedKey? : ParseEvent → Option MemoKey
  | requested key => some key
  | _ => none

namespace Session

/-- The keys whose productions were run, in order. -/
def produced (s : Session) : List MemoKey := s.log.toList.filterMap ParseEvent.producedKey?

/-- The keys that were looked up, in order. -/
def requested (s : Session) : List MemoKey := s.log.toList.filterMap ParseEvent.requestedKey?

theorem produced_note (s : Session) (event : ParseEvent) :
    (s.note event).produced = s.produced ++ event.producedKey?.toList := by
  rw [produced, produced, log_note, Array.toList_push, List.filterMap_append]
  cases h : event.producedKey? <;> simp [h]

theorem requested_note (s : Session) (event : ParseEvent) :
    (s.note event).requested = s.requested ++ event.requestedKey?.toList := by
  rw [requested, requested, log_note, Array.toList_push, List.filterMap_append]
  cases h : event.requestedKey? <;> simp [h]

theorem produced_note_of_none {s : Session} {event : ParseEvent} (h : event.producedKey? = none) :
    (s.note event).produced = s.produced := by
  rw [produced_note, h]
  exact List.append_nil _

theorem requested_note_of_none {s : Session} {event : ParseEvent}
    (h : event.requestedKey? = none) : (s.note event).requested = s.requested := by
  rw [requested_note, h]
  exact List.append_nil _

/-- What a consumer has added when `made` are the keys it ran productions for and `asked` those it
looked up.  What is said of entries and hits holds if it has ended well. -/
structure Grows (P : MemoKey → Prop) (well : Prop) (s s' : Session) (made asked : List MemoKey) :
    Prop where
  produced_eq : s'.produced = s.produced ++ made
  requested_eq : s'.requested = s.requested ++ asked
  nodup : made.Nodup
  not_mem : ∀ key ∈ made, key ∉ s.memo.entries
  concerned : ∀ key ∈ made, P key
  subset : ∀ key ∈ made, key ∈ asked
  mem_iff : well → ∀ key, key ∈ s'.memo.entries ↔ key ∈ s.memo.entries ∨ key ∈ made
  mem_of_asked : well → ∀ key ∈ asked, key ∈ s'.memo.entries
  size_eq : well → s'.memo.size = s.memo.size + made.length
  hits_eq : well → s'.memo.hits + made.length = s.memo.hits + asked.length

variable {P Q : MemoKey → Prop} {well well' : Prop} {s s₁ s' : Session}
  {made asked made' asked' : List MemoKey} {key : MemoKey}

theorem Grows.refl (s : Session) : Grows P well s s [] [] where
  produced_eq := (List.append_nil _).symm
  requested_eq := (List.append_nil _).symm
  nodup := .nil
  not_mem := nofun
  concerned := nofun
  subset := nofun
  mem_iff := by simp
  mem_of_asked := nofun
  size_eq _ := rfl
  hits_eq _ := rfl

theorem Grows.mono (h : Grows P well s s' made asked) (hP : ∀ key, P key → Q key)
    (hwell : well' → well) : Grows Q well' s s' made asked :=
  { h with
    concerned := fun key hk => hP key (h.concerned key hk)
    mem_iff := fun hw => h.mem_iff (hwell hw)
    mem_of_asked := fun hw => h.mem_of_asked (hwell hw)
    size_eq := fun hw => h.size_eq (hwell hw)
    hits_eq := fun hw => h.hits_eq (hwell hw) }

/-- An event that tells neither of a production nor of a look-up changes nothing. -/
theorem Grows.note (h : Grows P well s s' made asked) {event : ParseEvent}
    (hp : event.producedKey? = none) (hr : event.requestedKey? = none) :
    Grows P well s (s'.note event) made asked :=
  { h with
    produced_eq := (produced_note_of_none hp).trans h.produced_eq
    requested_eq := (requested_note_of_none hr).trans h.requested_eq }

theorem Grows.of_note {event : ParseEvent} (h : Grows P well (s.note event) s' made asked)
    (hp : event.producedKey? = none) (hr : event.requestedKey? = none) :
    Grows P well s s' made asked :=
  { h with
    produced_eq := by rw [h.produced_eq, produced_note_of_none hp]
    requested_eq := by rw [h.requested_eq, requested_note_of_none hr] }

/-- One after the other.  What the second one finds in the table is only known if the first one has
ended well; otherwise the second one must do nothing. -/
theorem Grows.trans (h : Grows P well s s₁ made asked) (h' : Grows P well' s₁ s' made' asked')
    (hwell : well' → well) (hdone : well ∨ made' = []) :
    Grows P well' s s' (made ++ made') (asked ++ asked') where
  produced_eq := by rw [h'.produced_eq, h.produced_eq, List.append_assoc]
  requested_eq := by rw [h'.requested_eq, h.requested_eq, List.append_assoc]
  nodup := by
    refine List.nodup_append.mpr ⟨h.nodup, h'.nodup, ?_⟩
    rintro key hk _ hk' rfl
    rcases hdone with hw | rfl
    · exact h'.not_mem key hk' ((h.mem_iff hw key).mpr (.inr hk))
    · cases hk'
  not_mem := by
    intro key hk hmem
    rcases List.mem_append.mp hk with hk | hk
    · exact h.not_mem key hk hmem
    · rcases hdone with hw | rfl
      · exact h'.not_mem key hk ((h.mem_iff hw key).mpr (.inl hmem))
      · cases hk
  concerned := by
    intro key hk
    rcases List.mem_append.mp hk with hk | hk
    · exact h.concerned key hk
    · exact h'.concerned key hk
  subset := by
    intro key hk
    rcases List.mem_append.mp hk with hk | hk
    · exact List.mem_append_left _ (h.subset key hk)
    · exact List.mem_append_right _ (h'.subset key hk)
  mem_iff := by
    intro hw key
    rw [h'.mem_iff hw, h.mem_iff (hwell hw), List.mem_append, or_assoc]
  mem_of_asked := by
    intro hw key hk
    rcases List.mem_append.mp hk with hk | hk
    · exact (h'.mem_iff hw key).mpr (.inl (h.mem_of_asked (hwell hw) key hk))
    · exact h'.mem_of_asked hw key hk
  size_eq := by
    intro hw
    have hsize := h.size_eq (hwell hw)
    have hsize' := h'.size_eq hw
    rw [List.length_append]
    omega
  hits_eq := by
    intro hw
    have hhits := h.hits_eq (hwell hw)
    have hhits' := h'.hits_eq hw
    rw [List.length_append, List.length_append]
    omega

/-- A look-up that finds an entry. -/
theorem Grows.of_hit {event : ParseEvent} (hp : event.producedKey? = none)
    (hr : event.requestedKey? = none) (hmem : key ∈ s.memo.entries) :
    Grows P well s ((s.note (.requested key)).hit.note event) [] [key] where
  produced_eq := by
    have hasked : (s.note (.requested key)).hit.produced = s.produced :=
      produced_note_of_none rfl
    rw [produced_note_of_none hp, hasked, List.append_nil]
  requested_eq := by
    have hasked : (s.note (.requested key)).hit.requested = s.requested ++ [key] :=
      requested_note s (.requested key)
    rw [requested_note_of_none hr, hasked]
  nodup := .nil
  not_mem := nofun
  concerned := nofun
  subset := nofun
  mem_iff _ key' := by simp [hit]
  mem_of_asked _ key' hk := List.mem_singleton.mp hk ▸ hmem
  size_eq _ := rfl
  hits_eq _ := rfl

/-- A production whose result is not stored. -/
theorem Grows.of_unstored
    (h : Grows P well ((s.note (.requested key)).note (.produced key)) s' made asked)
    (hkey : key ∉ s.memo.entries) (hmade : key ∉ made) (hP : P key) :
    Grows P False s s' (key :: made) (key :: asked) where
  produced_eq := by
    rw [h.produced_eq, produced_note, produced_note]
    simp [ParseEvent.producedKey?]
  requested_eq := by
    rw [h.requested_eq, requested_note, requested_note]
    simp [ParseEvent.requestedKey?]
  nodup := List.nodup_cons.mpr ⟨hmade, h.nodup⟩
  not_mem := List.forall_mem_cons.mpr ⟨hkey, h.not_mem⟩
  concerned := List.forall_mem_cons.mpr ⟨hP, h.concerned⟩
  subset := List.forall_mem_cons.mpr ⟨.head _, fun key' hk => .tail _ (h.subset key' hk)⟩
  mem_iff := nofun
  mem_of_asked := nofun
  size_eq := nofun
  hits_eq := nofun

/-- A production whose result is stored. -/
theorem Grows.of_stored
    (h : Grows P True ((s.note (.requested key)).note (.produced key)) s₁ made asked)
    (hkey : key ∉ s.memo.entries) (hkey₁ : key ∉ s₁.memo.entries) (hmade : key ∉ made)
    (hP : P key) {entry : MemoEntry Node} {event : ParseEvent}
    (hp : event.producedKey? = none) (hr : event.requestedKey? = none) :
    Grows P well s ((s₁.store key entry).note event) (key :: made) (key :: asked) := by
  have hsize : (s₁.store key entry).memo.size = s₁.memo.size + 1 := by
    rw [store, MemoTable.size, MemoTable.size, Std.HashMap.size_insert, if_neg hkey₁]
  have hold : ∀ key', key' ∈ s₁.memo.entries ↔ key' ∈ s.memo.entries ∨ key' ∈ made :=
    h.mem_iff trivial
  have hstored : s.Grows P well (s₁.store key entry) (key :: made) (key :: asked) :=
    { Grows.of_unstored h hkey hmade hP with
      mem_iff := by
        intro _ key'
        rw [mem_entries_store, hold, List.mem_cons, or_left_comm]
        exact or_congr_right (or_congr_left eq_comm)
      mem_of_asked := by
        intro _ key' hk
        rw [mem_entries_store]
        rcases List.mem_cons.mp hk with rfl | hk
        · exact .inl rfl
        · exact .inr (h.mem_of_asked trivial key' hk)
      size_eq := by
        intro _
        have hsize₁ : s₁.memo.size = s.memo.size + made.length := h.size_eq trivial
        rw [hsize, List.length_cons]
        omega
      hits_eq := by
        intro _
        have hhits₁ : s₁.memo.hits + made.length = s.memo.hits + asked.length :=
          h.hits_eq trivial
        have hhits : (s₁.store key entry).memo.hits = s₁.memo.hits := rfl
        rw [hhits, List.length_cons, List.length_cons]
        omega }
  exact hstored.note hp hr

end Session

/-! ## What runs add -/

/-- Whether a plan has come to a result that `raises` does not say to be an error no one may recover
from. -/
def Calm {α : Type} (raises : α → Prop) : Except Halt α → Prop
  | .ok a => ¬ raises a
  | .error _ => False

/-- A run that does not use up its fuel adds productions of different keys, all of which its
consumer leads to. -/
def Thrifty (env : Environment) (S : Grammar → Prop) (buffer : Array Char) (run : Run) : Prop :=
  ∀ (g : Grammar) (w : Window) (parent : NodeBuilder) (s s' : Session) (r : Except Halt Reply),
    S g → w.buffer = buffer → s.Valid env S buffer →
    (run g w parent).exec s = (r.map (Reply.outcome parent), s') → r ≠ .error .outOfFuel →
    ∃ made asked, s.Grows (g.Concerns env.bindings w) (Calm Raises r) s' made asked

theorem ParseEvent.producedKey?_of_isRemark {event : ParseEvent} (h : event.isRemark) :
    event.producedKey? = none := by
  cases event <;> first | rfl | cases h

theorem ParseEvent.requestedKey?_of_isRemark {event : ParseEvent} (h : event.isRemark) :
    event.requestedKey? = none := by
  cases event <;> first | rfl | cases h

section Running

variable {env : Environment} {S : Grammar → Prop} {buffer : Array Char} {run : Run}

/-- A plan that is done adds nothing. -/
theorem Follows.grows_done {α : Type} {r r' : Except Halt α} {s s' : Session}
    {P : MemoKey → Prop} {well : Prop} (hf : Follows run (.done r) s r' s') :
    s.Grows P well s' [] [] := by
  generalize hp : Plan.done r = p at hf
  induction hf with
  | done => exact .refl _
  | remark hevent _ ih =>
    exact (ih hp).of_note (ParseEvent.producedKey?_of_isRemark hevent)
      (ParseEvent.requestedKey?_of_isRemark hevent)
  | ask => cases hp
  | halt => cases hp

/-- Following a plan adds what its questions add. -/
theorem Follows.grows (hsound : Sound env S buffer run) (hrun : Thrifty env S buffer run)
    {α : Type} {raises : α → Prop} {p : Plan α} {s s' : Session} {r : Except Halt α}
    (hf : Follows run p s r s') (hcommits : p.Commits raises)
    (hp : ∀ g w, Asks env.bindings p g w → S g ∧ w.buffer = buffer)
    (hv : s.Valid env S buffer) (hr : r ≠ .error .outOfFuel) :
    ∃ made asked, s.Grows (p.Concerns env.bindings) (Calm raises r) s' made asked := by
  induction hf with
  | done => exact ⟨[], [], .refl _⟩
  | remark hevent _ ih =>
    obtain ⟨made, asked, hgrows⟩ := ih hcommits hp hv hr
    exact ⟨made, asked, hgrows.of_note (ParseEvent.producedKey?_of_isRemark hevent)
      (ParseEvent.requestedKey?_of_isRemark hevent)⟩
  | @ask g w parent next reply r s s₁ s' hexec hn ih =>
    obtain ⟨hg, hw⟩ := hp _ _ .here
    obtain ⟨hsettles, hv₁, -⟩ := hsound _ _ _ _ _ (.ok reply) hg hw hv hexec
    have hsettles : Settles env.bindings (g.plan env.bindings w) (.ok reply) :=
      hsettles.resolve_left nofun
    obtain ⟨made, asked, hgrows⟩ := hrun _ _ _ _ _ (.ok reply) hg hw hv hexec nofun
    have hfirst : s.Grows ((Plan.ask g w next).Concerns env.bindings)
        (Calm Raises (Except.ok reply)) s₁ made asked :=
      hgrows.mono (fun key hc => ⟨g, w, .here, hc⟩) id
    by_cases hraises : Raises reply
    · -- The plan gives up: nothing more is asked, and the result is not calm either.
      obtain ⟨result, hresult, hanswer⟩ := hcommits.1 reply hraises
      rw [hanswer] at hn
      obtain rfl := hn.done_eq
      exact ⟨_, _, hfirst.trans hn.grows_done (fun hcalm => absurd hresult hcalm) (.inr rfl)⟩
    · obtain ⟨made', asked', hgrows'⟩ :=
        ih (hcommits.2 reply) (fun g w ha => hp g w (.later hsettles ha)) hv₁ hr
      have hrest : s₁.Grows ((Plan.ask g w next).Concerns env.bindings) (Calm raises r) s' made'
          asked' := by
        refine hgrows'.mono ?_ id
        rintro key ⟨g', w', ha, hc⟩
        exact ⟨g', w', .later hsettles ha, hc⟩
      exact ⟨_, _, hfirst.trans hrest (fun _ => hraises) (.inl hraises)⟩
  | @halt g w parent next e s s₁ hexec =>
    obtain ⟨hg, hw⟩ := hp _ _ .here
    obtain ⟨made, asked, hgrows⟩ := hrun _ _ _ _ _ (.error e) hg hw hv hexec (error_ne_outOfFuel hr)
    exact ⟨made, asked, hgrows.mono (fun key hc => ⟨g, w, .here, hc⟩) nofun⟩

variable (h : Repertoire env.bindings S)
include h

/-- A production that is run when there is no entry for its key adds that key and others.  There is
still no entry when it ends, and once its result is stored, all of the keys have one. -/
theorem Follows.grows_production (hsound : Sound env S buffer run)
    (hrun : Thrifty env S buffer run) {id : ConsumerId} {production : Production}
    (hg : S (.memoized id production)) {w : Window} (hw : w.buffer = buffer) {s s₁ : Session}
    {r : Except Halt (Except ParseError (Window × Node))}
    (hnone : s.memo.entries[w.key id]? = none)
    (hf : Follows run (production.plan w)
      ((s.note (.requested (w.key id))).note (.produced (w.key id))) r s₁)
    (hv : s.Valid env S buffer) (hr : r ≠ .error .outOfFuel) :
    ∃ made asked,
      s.Grows ((Grammar.memoized id production).Concerns env.bindings w) False s₁ made asked ∧
      ∀ x, r = .ok x → ¬ Raises x → s₁.memo.entries[w.key id]? = none ∧
        ∀ (well : Prop) (entry : MemoEntry Node) (event : ParseEvent),
          event.producedKey? = none → event.requestedKey? = none →
          s.Grows ((Grammar.memoized id production).Concerns env.bindings w) well
            ((s₁.store (w.key id) entry).note event) made asked := by
  have hp : ∀ g' w', Asks env.bindings (production.plan w) g' w' → S g' ∧ w'.buffer = buffer :=
    fun g' w' ha => h.asks_members hg hw (ha.andThen production.planApplied)
  obtain ⟨made, asked, hgrows⟩ := hf.grows hsound hrun (production.plan_commits w) hp hv hr
  obtain ⟨hsettles, -, -, hsame⟩ := Follows.produced h hsound hg hw hf hv
  have hmade : w.key id ∉ made := fun hmem =>
    h.not_concerns_self hg (hsettles.resolve_left hr) (hgrows.concerned _ hmem)
  have hself : (Grammar.memoized id production).Concerns env.bindings w (w.key id) :=
    Grammar.concerns_self id production w
  have hgrows' : ((s.note (.requested (w.key id))).note (.produced (w.key id))).Grows
      ((Grammar.memoized id production).Concerns env.bindings w) (Calm Raises r) s₁ made asked :=
    hgrows.mono (fun key => Grammar.concerns_of_production) fun hcalm => hcalm
  refine ⟨_, _, hgrows'.of_unstored (Session.not_mem_of_none hnone) hmade hself, ?_⟩
  -- A production that settles does not lead to its own key, so that its entry is still missing.
  rintro x rfl hx
  have hnone₁ : s₁.memo.entries[w.key id]? = none := (hsame x rfl).trans hnone
  refine ⟨hnone₁, fun well entry event hprod hreq => ?_⟩
  exact (hgrows'.mono (fun _ hk => hk) fun _ => hx).of_stored (Session.not_mem_of_none hnone)
    (Session.not_mem_of_none hnone₁) hmade hself hprod hreq

/-- A consumer that looks its result up runs its production once, or not at all. -/
theorem LooksUp.grows (hsound : Sound env S buffer run) (hrun : Thrifty env S buffer run)
    {id : ConsumerId} {production : Production} (hg : S (.memoized id production)) {w : Window}
    (hw : w.buffer = buffer) {s s' : Session} {r : Except Halt Reply}
    (hl : LooksUp run id production w s r s') (hv : s.Valid env S buffer)
    (hr : r ≠ .error .outOfFuel) :
    ∃ made asked,
      s.Grows ((Grammar.memoized id production).Concerns env.bindings w) (Calm Raises r) s' made
        asked := by
  cases hl with
  | found hentry => exact ⟨_, _, .of_hit rfl rfl (Session.mem_of_some hentry)⟩
  | foundFailure hentry => exact ⟨_, _, .of_hit rfl rfl (Session.mem_of_some hentry)⟩
  | halted hnone hf =>
    obtain ⟨made, asked, hgrows, -⟩ :=
      hf.grows_production h hsound hrun hg hw hnone hv (error_ne_outOfFuel hr)
    exact ⟨made, asked, hgrows.mono (fun _ hk => hk) nofun⟩
  | fatal hnone hf hraises =>
    obtain ⟨made, asked, hgrows, -⟩ := hf.grows_production h hsound hrun hg hw hnone hv nofun
    exact ⟨made, asked, hgrows.mono (fun _ hk => hk) fun hcalm => hcalm hraises⟩
  | storedFailure hnone hf hrec _ =>
    obtain ⟨made, asked, -, hstored⟩ := hf.grows_production h hsound hrun hg hw hnone hv nofun
    exact ⟨made, asked, (hstored _ rfl (by simp [hrec])).2 _ _ _ rfl rfl⟩
  | stored hnone hf _ =>
    obtain ⟨made, asked, -, hstored⟩ := hf.grows_production h hsound hrun hg hw hnone hv nofun
    exact ⟨made, asked, (hstored _ rfl not_raises_ok).2 _ _ _ rfl rfl⟩
  | refusedFailure hnone hf hrec hsome =>
    obtain ⟨_, _, -, hstored⟩ := hf.grows_production h hsound hrun hg hw hnone hv nofun
    cases (hstored _ rfl (by simp [hrec])).1.symm.trans hsome
  | known hnone hf hsome _ =>
    obtain ⟨_, _, -, hstored⟩ := hf.grows_production h hsound hrun hg hw hnone hv nofun
    cases (hstored _ rfl not_raises_ok).1.symm.trans hsome
  | refused hnone hf hsome _ =>
    obtain ⟨_, _, -, hstored⟩ := hf.grows_production h hsound hrun hg hw hnone hv nofun
    cases (hstored _ rfl not_raises_ok).1.symm.trans hsome

end Running

namespace Grammar

variable {env : Environment} {S : Grammar → Prop} {buffer : Array Char} {run : Run}

theorem producedKey?_ending (g : Grammar) (w : Window) (r : Except ParseError Window) :
    (g.ending w r).producedKey? = none := by
  rcases r with e | rest
  · rw [ending]
    split <;> rfl
  · rfl

theorem requestedKey?_ending (g : Grammar) (w : Window) (r : Except ParseError Window) :
    (g.ending w r).requestedKey? = none := by
  rcases r with e | rest
  · rw [ending]
    split <;> rfl
  · rfl

/-- **One step keeps runs thrifty.** -/
theorem thrifty_step (h : Repertoire env.bindings S) (happ : Appends run)
    (hsound : Sound env S buffer run) (hrun : Thrifty env S buffer run) :
    Thrifty env S buffer (step run env) := by
  intro g w parent s s' r hg hw hv hexec hr
  have hplan : g.hasPlan := hasPlan_of_isCombinator (h.isCombinator g hg)
  obtain ⟨r', s₁, hc, hr', rfl⟩ := step_consumes happ hplan w parent hexec
  obtain rfl := map_outcome_injective hr'
  have hgrows : ∃ made asked,
      (s.note .started).Grows (g.Concerns env.bindings w) (Calm Raises r) s₁ made asked := by
    cases hc with
    | follows _ hf =>
      obtain ⟨made, asked, hgrows⟩ := hf.grows hsound hrun (g.plan_commits env.bindings w)
        (fun _ _ => h.asks_members hg hw) hv hr
      exact ⟨made, asked, hgrows.mono (fun key => concerns_of_plan) fun hcalm => hcalm⟩
    | looksUp hcaching hl => exact hl.grows h hsound hrun hg hw hv hr
  obtain ⟨made, asked, hgrows⟩ := hgrows
  have hbegun := hgrows.of_note rfl rfl
  refine ⟨made, asked, ?_⟩
  rcases r with e | reply
  · exact hbegun
  · exact hbegun.note (producedKey?_ending ..) (requestedKey?_ending ..)

/-- **However much fuel there is, consuming is thrifty.** -/
theorem thrifty_consume (h : Repertoire env.bindings S) (fuel : Nat) :
    Thrifty env S buffer (consume env fuel) := by
  have hnone : Thrifty env S buffer fun _ _ _ => throw .outOfFuel := by
    intro g w parent s s' r _ _ _ hexec hr
    obtain ⟨heq, -⟩ := Prod.mk.inj hexec
    rcases r with e | reply
    · cases heq
      exact absurd rfl hr
    · cases heq
  -- A thrifty run needs sound parts, so the two are kept together.
  have hboth : Sound env S buffer (consume env fuel) ∧ Thrifty env S buffer (consume env fuel) := by
    refine consume_induction (P := fun run => Sound env S buffer run ∧ Thrifty env S buffer run)
      ⟨sound_consume h 0, hnone⟩ ?_ fuel
    rintro run happ ⟨hsound, hrun⟩
    exact ⟨sound_step h happ hsound, thrifty_step h happ hsound hrun⟩
  exact hboth.2

end Grammar

/-! ## How many keys there are -/

namespace Window

/-- The keys that the consumers `ids` have at the places of a window, all with its end. -/
def keys (w : Window) (ids : List ConsumerId) : List MemoKey :=
  ids.flatMap fun id => (List.range (w.length + 1)).map fun offset => ⟨w.start + offset, w.stop, id⟩

theorem length_keys (w : Window) (ids : List ConsumerId) :
    (w.keys ids).length = ids.length * (w.length + 1) := by
  simp [keys]

/-- The keys at windows that continue `w` are among them. -/
theorem Continues.key_mem_keys {w w' : Window} (h : w.Continues w') {ids : List ConsumerId}
    {id : ConsumerId} (hid : id ∈ ids) : w'.key id ∈ w.keys ids := by
  have hstart := h.start_le
  have hstop : w'.start ≤ w.stop := h.stop_eq ▸ w'.start_le
  refine List.mem_flatMap.mpr ⟨id, hid, List.mem_map.mpr ⟨w'.start - w.start, ?_, ?_⟩⟩
  · rw [List.mem_range, length]
    omega
  · rw [key, h.stop_eq, Nat.add_sub_of_le hstart]

end Window

namespace Repertoire

variable {bindings : Bindings} {S : Grammar → Prop} (h : Repertoire bindings S)
include h

/-- Without windows that show less text, what is called consumes what is left of the window. -/
theorem calls_continues {g : Grammar} (hg : S g) {w : Window}
    (hplain : ∀ rule, g.Uses bindings rule → rule.isWindowed = false) {x : Grammar × Window}
    (hc : Relation.ReflTransGen (Calls bindings) (g, w) x) :
    g.Uses bindings x.1 ∧ w.Continues x.2 := by
  induction hc with
  | refl => exact ⟨.refl, .refl w⟩
  | tail _ hcall ih =>
    obtain ⟨huses, hcontinues⟩ := ih
    obtain ⟨hmentions, hshows⟩ := h.asks (h.uses hg huses) hcall
    exact ⟨huses.tail hmentions, hcontinues.trans (hshows.continues (hplain _ huses))⟩

/-- There is one key for each memoizing rule and each place. -/
theorem length_le_of_concerns {g : Grammar} (hg : S g) {w : Window}
    (hplain : ∀ rule, g.Uses bindings rule → rule.isWindowed = false) {ids : List ConsumerId}
    (hids : ∀ id production, g.Uses bindings (.memoized id production) → id ∈ ids)
    {made : List MemoKey} (hnodup : made.Nodup) (hmade : ∀ key ∈ made, g.Concerns bindings w key) :
    made.length ≤ ids.length * (w.length + 1) := by
  have hsubset : made ⊆ w.keys ids := by
    -- A key was asked for at a window that was called, which ends where `w` does.
    intro key hk
    obtain ⟨id, production, w', hc, rfl⟩ := hmade key hk
    obtain ⟨huses, hcontinues⟩ := h.calls_continues hg hplain hc
    exact hcontinues.key_mem_keys (hids id production huses)
  calc made.length ≤ (w.keys ids).length := (hnodup.subperm hsubset).length_le
    _ = ids.length * (w.length + 1) := w.length_keys ids

end Repertoire

/-! ## A parse of a text -/

namespace Grammar

variable {env : Environment} {fuel : Nat} {config : Config} {g : Grammar} {text : String}
  {s s' : Session} {r : Except Halt (Except ParseError Node)}

/-- A parse consumes the grammar with a fresh table, unless there is no room for one.  What the
parse itself writes into the log tells neither of a production nor of a look-up, and it hides no
error that no one may recover from. -/
theorem parseWith_exec (h : (g.parseWith env fuel config text).exec s = (r, s')) :
    (∃ v, r = .error (.violation v) ∧ s' = s.note (.parseStarted text.utf8ByteSize)) ∨
      ∃ r₁ s₁,
        (g.consume env fuel (.ofText text) .empty).exec
            { s.note (.parseStarted text.utf8ByteSize) with memo := .empty } =
          (r₁.map (Reply.outcome .empty), s₁) ∧
        s'.memo = s₁.memo ∧ s'.produced = s₁.produced ∧ s'.requested = s₁.requested ∧
        (r = .error .outOfFuel ↔ r₁ = .error .outOfFuel) ∧
        ∀ result, r = .ok result → (∀ e, result = .error e → e.isRecoverable) → Calm Raises r₁ := by
  rcases parseWith_parses h with hroom | ⟨o, s₁, hconsume, hparses⟩
  · exact .inl hroom
  · obtain ⟨r₁, hr₁⟩ := appends_consume env fuel g (.ofText text) .empty
      { s.note (.parseStarted text.utf8ByteSize) with memo := .empty }
    rw [hconsume] at hr₁
    obtain rfl : o = r₁.map (Reply.outcome .empty) := hr₁
    refine .inr ⟨r₁, s₁, hconsume, ?_⟩
    rcases r₁ with e | e | ⟨rest, nodes⟩
    · cases hparses with
      | halts => exact ⟨rfl, rfl, rfl, by simp, nofun⟩
    · have hcalm : ∀ result, (.ok (.error e) : Except Halt (Except ParseError Node)) = .ok result →
          (∀ e, result = .error e → e.isRecoverable) →
          Calm Raises (.ok (.error e) : Except Halt Reply) := by
        intro result hr hok
        have hrec : e.isRecoverable := hok e (Except.ok.inj hr).symm
        exact fun hraises => Bool.noConfusion (hraises.symm.trans hrec)
      cases hparses with
      | fails _ => exact ⟨rfl, rfl, rfl, by simp, hcalm⟩
      | aborts _ =>
        exact ⟨rfl, Session.produced_note_of_none rfl, Session.requested_note_of_none rfl, by simp,
          hcalm⟩
    · have hcalm : Calm Raises (.ok (.ok (rest, nodes)) : Except Halt Reply) := not_raises_ok
      cases hparses with
      | leaves _ _ => exact ⟨rfl, rfl, rfl, by simp, fun _ _ _ => hcalm⟩
      | finishes =>
        exact ⟨rfl, Session.produced_note_of_none rfl, Session.requested_note_of_none rfl, by simp,
          fun _ _ _ => hcalm⟩

/-- What a parse that does not run out of fuel works out and looks up. -/
theorem parseWith_grows {S : Grammar → Prop} (h : Repertoire env.bindings S) (hg : S g)
    (hlog : s.log = #[]) (hexec : (g.parseWith env fuel config text).exec s = (r, s'))
    (hr : r ≠ .error .outOfFuel) :
    s'.produced.Nodup ∧
      (∀ key ∈ s'.produced, g.Concerns env.bindings (.ofText text) key) ∧
      ∀ result, r = .ok result → (∀ e, result = .error e → e.isRecoverable) →
        (∀ key, key ∈ s'.requested ↔ key ∈ s'.produced) ∧
          s'.memo.size = s'.produced.length ∧
          s'.memo.hits + s'.produced.length = s'.requested.length := by
  have hbegun : (s.note (.parseStarted text.utf8ByteSize)).produced = [] := by
    rw [Session.produced_note_of_none rfl, Session.produced, hlog]
    rfl
  have hbegun' : (s.note (.parseStarted text.utf8ByteSize)).requested = [] := by
    rw [Session.requested_note_of_none rfl, Session.requested, hlog]
    rfl
  rcases parseWith_exec hexec with ⟨v, rfl, rfl⟩ | ⟨r₁, s₁, hconsume, hmemo, hp, hq, hfuel, hcalm⟩
  · rw [hbegun]
    exact ⟨.nil, nofun, nofun⟩
  · have hv : Session.Valid env S (Window.ofText text).buffer
        { s.note (.parseStarted text.utf8ByteSize) with memo := .empty } :=
      h.valid_of_reached (.fresh rfl)
    obtain ⟨made, asked, hgrows⟩ :=
      thrifty_consume h fuel g _ _ _ _ r₁ hg rfl hv hconsume fun heq => hr (hfuel.mpr heq)
    have hmade : s'.produced = made := by
      rw [hp, hgrows.produced_eq]
      exact congrArg (· ++ made) hbegun
    have hasked : s'.requested = asked := by
      rw [hq, hgrows.requested_eq]
      exact congrArg (· ++ asked) hbegun'
    rw [hmade, hasked, hmemo]
    refine ⟨hgrows.nodup, hgrows.concerned, fun result hresult hok => ?_⟩
    have hwell : Calm Raises r₁ := hcalm result hresult hok
    refine ⟨fun key => ⟨fun hk => ?_, hgrows.subset key⟩, ?_, ?_⟩
    · have hmem := (hgrows.mem_iff hwell key).mp (hgrows.mem_of_asked hwell key hk)
      exact hmem.resolve_left (by simp [MemoTable.empty])
    · have hsize := hgrows.size_eq hwell
      rw [hsize]
      exact Nat.zero_add _
    · have hhits := hgrows.hits_eq hwell
      rw [hhits]
      exact Nat.zero_add _

end Grammar

/-- **Each result is worked out once.**  In a parse that comes to an end, the productions that are
run have different keys.  Where no part is shown less text, there are at most as many of them as
there are memoizing rules, for each place of the text and its end.  If the parse does not end in an
error that no one may recover from, the table has an entry for each key that was looked up, and each
further look-up was a hit.  Over a table that is shared, a production that has ended with a match or
a recoverable error is never run again. -/
theorem produced_once {bindings : Bindings} {S : Grammar → Prop} (h : Repertoire bindings S)
    {g : Grammar} (hg : S g) :
    (∀ (fuel : Nat) (config : Config) (text : String) (s s' : Session)
        (r : Except Halt (Except ParseError Node)),
      s.log = #[] → (g.parseWith ⟨bindings, true⟩ fuel config text).exec s = (r, s') →
      r ≠ .error .outOfFuel →
      s'.produced.Nodup ∧
        ((∀ rule, g.Uses bindings rule → rule.isWindowed = false) →
          ∀ ids : List ConsumerId,
            (∀ id production, g.Uses bindings (.memoized id production) → id ∈ ids) →
            s'.produced.length ≤ ids.length * (text.length + 1)) ∧
        ∀ result, r = .ok result → (∀ e, result = .error e → e.isRecoverable) →
          s'.memo.size = s'.requested.toFinset.card ∧
            s'.memo.size + s'.memo.hits = s'.requested.length) ∧
      ∀ s : Session, s.Shared ⟨bindings, true⟩ → ∀ before key after,
        s.log.toList = before ++ .produced key :: after →
        key ∉ (History.of before).completed := by
  have hcached : Repertoire (Environment.mk bindings true).bindings S := h
  refine ⟨fun fuel config text s s' r hlog hexec hr => ?_, fun s hs => hs.orderly.once⟩
  obtain ⟨hnodup, hconcerned, hwell⟩ := Grammar.parseWith_grows hcached hg hlog hexec hr
  refine ⟨hnodup, fun hplain ids hids => ?_, fun result hresult hok => ?_⟩
  · have hlength : (Window.ofText text).length = text.length := by
      simp [Window.ofText, Window.length, String.length_toList]
    rw [← hlength]
    exact h.length_le_of_concerns hg hplain hids hnodup hconcerned
  · obtain ⟨hsame, hsize, hhits⟩ := hwell result hresult hok
    have hfinset : s'.requested.toFinset = s'.produced.toFinset := by
      ext key
      rw [List.mem_toFinset, List.mem_toFinset, hsame]
    rw [hfinset, List.toFinset_card_of_nodup hnodup]
    exact ⟨hsize, by omega⟩

/-- Lists of letters on a text of two letters: there are three memoizing rules and three places. -/
theorem letters_produced_once :
    Repertoire Letters.bindings (· ∈ Letters.grammars) ∧ Letters.list ∈ Letters.grammars ∧
      ∃ fuel r s',
        (Letters.list.parseWith ⟨Letters.bindings, true⟩ fuel {} "aa").exec {} = (r, s') ∧
          r ≠ .error .outOfFuel ∧ s'.produced.Nodup ∧ s'.produced.length ≤ 3 * (2 + 1) := by
  have hrep : Repertoire (Environment.mk Letters.bindings true).bindings (· ∈ Letters.grammars) :=
    Letters.repertoire
  have hg : Letters.list ∈ Letters.grammars := .head _
  -- Without a table the lists can be run here and now; with one they answer the same.
  obtain ⟨o, ho⟩ : ∃ o, ((Letters.list.consume ⟨Letters.bindings, false⟩ 9 (.ofText "aa")
      .empty).exec {}).1 = .ok o := ⟨_, rfl⟩
  have hanswers : Letters.list.Answers ⟨Letters.bindings, false⟩ (.ofText "aa") .empty {} (.ok o) :=
    ⟨nofun, 9, ho⟩
  have hplain : Repertoire (Environment.mk Letters.bindings false).bindings
      (· ∈ Letters.grammars) := Letters.repertoire
  obtain ⟨reply, -, hne, hsettles⟩ := (hplain.answers_iff_settles hg rfl nofun).mp hanswers
  obtain ⟨fuel, hfuel⟩ := hrep.exists_fuel_consume hg rfl hsettles hne
  rcases hexec : (Letters.list.parseWith ⟨Letters.bindings, true⟩ fuel {} "aa").exec {} with ⟨r, s'⟩
  have hr : r ≠ .error .outOfFuel := by
    rcases Grammar.parseWith_exec hexec with ⟨v, rfl, -⟩ | ⟨r₁, s₁, hconsume, -, -, -, hiff, -⟩
    · nofun
    · have hsame := hfuel fuel (Nat.le_refl _) .empty
        { Session.note {} (.parseStarted "aa".utf8ByteSize) with memo := .empty }
        (hrep.valid_of_reached (.fresh rfl))
      rw [hconsume] at hsame
      obtain rfl := map_outcome_injective hsame
      exact fun heq => hne (hiff.mp heq)
  obtain ⟨hnodup, hbound, -⟩ :=
    (produced_once Letters.repertoire hg).1 fuel {} "aa" {} s' r rfl hexec hr
  refine ⟨Letters.repertoire, hg, fuel, r, s', hexec, hr, hnodup, ?_⟩
  have hwritten : ∀ rule ∈ Letters.list.subgrammars ++
      Letters.bindings.flatMap fun binding => binding.2.subgrammars, rule.isWindowed = false := by
    decide
  refine hbound (fun rule hu => hwritten rule hu.mem_written) [⟨3⟩, ⟨1⟩, ⟨2⟩] ?_
  intro id production hu
  have hmem : Grammar.memoized id production ∈ Letters.grammars := Letters.repertoire.uses hg hu
  simp only [Letters.grammars, Letters.list, Letters.more, Letters.nil, List.mem_cons,
    Grammar.memoized.injEq, reduceCtorEq, List.not_mem_nil, or_false] at hmem
  rcases hmem with ⟨rfl, -⟩ | ⟨rfl, -⟩ | ⟨rfl, -⟩ <;> simp

end Packrat
