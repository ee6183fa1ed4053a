import Packrat.Proofs.Replies

/-! # What a choice takes

The first branch that does not fail recoverably **decides** a choice (`Grammar.Decides`): the choice
replies with a node around its nodes, or with its error.  The branches before it only matter in that
they **refuse** (`Grammar.Refuses`), whatever they have left in the memo table, and those behind it
not at all.

A lifted choice replies what the first deciding branch replies
(`Repertoire.repliesAlone_liftedChoice`), and so its branches may stand in its place
(`nested_choice_answers_iff`).
-/
namespace Packrat

/-- `g` fails recoverably on `w`. -/
def Grammar.Refuses (bindings : Bindings) (g : Grammar) (w : Window) : Prop :=
  ∃ e, e.isRecoverable = true ∧ g.RepliesAlone bindings w (.ok (.error e))

/-- The reply is no recoverable failure. -/
def Firm (r : Except Halt Reply) : Prop :=
  ∀ e, r = .ok (.error e) → e.isRecoverable = false

/-- `g` replies `r` on `w`, and that is no recoverable failure. -/
def Grammar.Decides (bindings : Bindings) (g : Grammar) (w : Window) (r : Except Halt Reply) :
    Prop :=
  g.RepliesAlone bindings w r ∧ Firm r

/-- What the first of `branches` replies that does not refuse `w`; if they all do, that there is no
other. -/
inductive FirstOf (bindings : Bindings) : List Grammar → Window → Except Halt Reply → Prop
  | none {w : Window} : FirstOf bindings [] w (.ok (.error (.noAlternative w.start none)))
  | decided {branch : Grammar} {branches : List Grammar} {w : Window} {r : Except Halt Reply} :
      branch.Decides bindings w r → FirstOf bindings (branch :: branches) w r
  | refused {branch : Grammar} {branches : List Grammar} {w : Window} {r : Except Halt Reply} :
      branch.Refuses bindings w → FirstOf bindings branches w r →
      FirstOf bindings (branch :: branches) w r

/-! ## The first branch that decides -/

section Deciding

variable {bindings : Bindings} {branch : Grammar} {branches xs ys zs : List Grammar} {w : Window}
  {r : Except Halt Reply}

theorem not_firm_noAlternative (position : Nat) :
    ¬ Firm (.ok (.error (.noAlternative position none))) := by
  intro h
  cases h _ rfl

theorem firm_of_fatal {e : ParseError} (he : e.isRecoverable = false) : Firm (.ok (.error e)) := by
  rintro e' heq
  cases heq
  exact he

theorem firm_matched (made : Window × List Node) : Firm (.ok (.ok made)) := nofun

theorem firm_halted (halt : Halt) : Firm (.error halt) := nofun

@[simp] theorem firstOf_nil :
    FirstOf bindings [] w r ↔ r = .ok (.error (.noAlternative w.start none)) := by
  constructor
  · intro h
    cases h
    rfl
  · rintro rfl
    exact .none

theorem firstOf_cons :
    FirstOf bindings (branch :: branches) w r ↔
      branch.Decides bindings w r ∨ branch.Refuses bindings w ∧ FirstOf bindings branches w r := by
  constructor
  · intro h
    cases h with
    | decided hdecides => exact .inl hdecides
    | refused hrefuses hfirst => exact .inr ⟨hrefuses, hfirst⟩
  · rintro (hdecides | ⟨hrefuses, hfirst⟩)
    · exact .decided hdecides
    · exact .refused hrefuses hfirst

/-- The front of a list decides, or all of it refuses and the rest is tried. -/
theorem firstOf_append :
    FirstOf bindings (xs ++ ys) w r ↔
      (FirstOf bindings xs w r ∧ Firm r) ∨
      (∀ g ∈ xs, g.Refuses bindings w) ∧ FirstOf bindings ys w r := by
  induction xs with
  | nil =>
    constructor
    · exact fun hys => .inr ⟨nofun, hys⟩
    · rintro (⟨hnil, hfirm⟩ | ⟨-, hys⟩)
      · obtain rfl := firstOf_nil.mp hnil
        exact absurd hfirm (not_firm_noAlternative _)
      · exact hys
  | cons x xs ih =>
    rw [List.cons_append, firstOf_cons, firstOf_cons, ih, List.forall_mem_cons]
    constructor
    · rintro (hdecides | ⟨hrefuses, ⟨hxs, hfirm⟩ | ⟨hxs, hys⟩⟩)
      · exact .inl ⟨.inl hdecides, hdecides.2⟩
      · exact .inl ⟨.inr ⟨hrefuses, hxs⟩, hfirm⟩
      · exact .inr ⟨⟨hrefuses, hxs⟩, hys⟩
    · rintro (⟨hdecides | ⟨hrefuses, hxs⟩, hfirm⟩ | ⟨⟨hrefuses, hxs⟩, hys⟩)
      · exact .inl hdecides
      · exact .inr ⟨hrefuses, .inl ⟨hxs, hfirm⟩⟩
      · exact .inr ⟨hrefuses, .inr ⟨hxs, hys⟩⟩

/-- There is a deciding branch behind others that refuse, or all of them refuse. -/
theorem firstOf_iff :
    FirstOf bindings branches w r ↔
      (∃ before branch after, branches = before ++ branch :: after ∧
        (∀ g ∈ before, g.Refuses bindings w) ∧ branch.Decides bindings w r) ∨
      (∀ g ∈ branches, g.Refuses bindings w) ∧
        r = .ok (.error (.noAlternative w.start none)) := by
  constructor
  · intro h
    induction h with
    | none => exact .inr ⟨nofun, rfl⟩
    | @decided branch branches _ _ hdecides =>
      exact .inl ⟨[], branch, branches, rfl, nofun, hdecides⟩
    | @refused first _ _ _ hrefuses _ ih =>
      rcases ih with ⟨before, branch, after, rfl, hbefore, hdecides⟩ | ⟨hall, hr⟩
      · exact .inl ⟨first :: before, branch, after, rfl,
          List.forall_mem_cons.mpr ⟨hrefuses, hbefore⟩, hdecides⟩
      · exact .inr ⟨List.forall_mem_cons.mpr ⟨hrefuses, hall⟩, hr⟩
  · rintro (⟨before, branch, after, rfl, hbefore, hdecides⟩ | ⟨hall, rfl⟩)
    · exact firstOf_append.mpr (.inr ⟨hbefore, .decided hdecides⟩)
    · have hnone : FirstOf bindings (branches ++ []) w
          (.ok (.error (.noAlternative w.start none))) := firstOf_append.mpr (.inr ⟨hall, .none⟩)
      rwa [List.append_nil] at hnone

/-- A recoverable failure means that all branches refuse. -/
theorem firstOf_recoverable_iff {e : ParseError} (he : e.isRecoverable = true) :
    FirstOf bindings branches w (.ok (.error e)) ↔
      e = .noAlternative w.start none ∧ ∀ g ∈ branches, g.Refuses bindings w := by
  rw [firstOf_iff]
  constructor
  · rintro (⟨_, _, _, -, -, -, hfirm⟩ | ⟨hall, heq⟩)
    · cases he.symm.trans (hfirm e rfl)
    · cases heq
      exact ⟨rfl, hall⟩
  · rintro ⟨rfl, hall⟩
    exact .inr ⟨hall, rfl⟩

/-- **A branch that replies as a list of branches does** may stand for the list. -/
theorem firstOf_splice {inner : Grammar}
    (hinner : ∀ r, inner.RepliesAlone bindings w r ↔ FirstOf bindings ys w r) :
    FirstOf bindings (xs ++ [inner] ++ zs) w r ↔ FirstOf bindings (xs ++ ys ++ zs) w r := by
  have hdecides : inner.Decides bindings w r ↔ FirstOf bindings ys w r ∧ Firm r :=
    and_congr_left fun _ => hinner r
  have hrefuses : inner.Refuses bindings w ↔ ∀ g ∈ ys, g.Refuses bindings w := by
    constructor
    · rintro ⟨e, he, hreply⟩
      exact ((firstOf_recoverable_iff he).mp ((hinner _).mp hreply)).2
    · intro hall
      exact ⟨_, rfl, (hinner _).mpr ((firstOf_recoverable_iff rfl).mpr ⟨rfl, hall⟩)⟩
  have hmiddle : FirstOf bindings (inner :: zs) w r ↔ FirstOf bindings (ys ++ zs) w r := by
    rw [firstOf_cons, firstOf_append, hdecides, hrefuses]
  rw [List.append_assoc, List.append_assoc, List.singleton_append, firstOf_append, firstOf_append,
    hmiddle]

theorem FirstOf.ne_outOfFuel (hr : FirstOf bindings branches w r) : r ≠ .error .outOfFuel := by
  induction hr with
  | none => exact ok_ne_outOfFuel _
  | decided hdecides => exact hdecides.1.ne_outOfFuel
  | refused _ _ ih => exact ih

end Deciding

/-! ## Replies of choices -/

namespace Repertoire

variable {bindings : Bindings} {S : Grammar → Prop} (h : Repertoire bindings S)
  {branches : List Grammar} {factory : Option Factory} {w : Window} {r : Except Halt Reply}
include h

/-- The loop over the branches of a choice. -/
theorem settles_planBranches {whole : List Grammar} (hr : r ≠ .error .outOfFuel)
    (hbranches : ∀ g ∈ branches, S g) :
    Settles bindings
        ((Production.planBranches factory w branches).andThen
          (Production.choice whole factory).planApplied) r ↔
      ∃ q, FirstOf bindings branches w q ∧ r = gathered factory w q := by
  induction branches with
  | nil =>
    rw [Production.planBranches, Plan.answer_andThen]
    simp [Production.planApplied, gathered]
  | cons branch branches ih =>
    have hbranch : S branch := hbranches branch (.head _)
    have hrest := ih fun g hg => hbranches g (.tail _ hg)
    rw [Production.planBranches, Plan.ask_andThen, h.settles_ask_iff hbranch hr]
    simp only [firstOf_cons]
    constructor
    · rintro (⟨e | ⟨rest, nodes⟩, hreply, hs⟩ | ⟨halt, hhalt, rfl⟩)
      · cases he : e.isRecoverable with
        | true =>
          obtain ⟨q, hq, hrq⟩ := hrest.mp (by simpa [he] using hs)
          exact ⟨q, .inr ⟨⟨e, he, hreply⟩, hq⟩, hrq⟩
        | false =>
          refine ⟨_, .inl ⟨hreply, firm_of_fatal he⟩, ?_⟩
          simpa [he, Production.planApplied, gathered] using hs
      · have hc := h.continues_of_repliesAlone hbranch hreply
        exact ⟨_, .inl ⟨hreply, firm_matched _⟩, (settles_planFinish (fun _ => rfl) hc).mp hs⟩
      · exact ⟨_, .inl ⟨hhalt, firm_halted _⟩, rfl⟩
    · rintro ⟨q, ⟨hreply, hfirm⟩ | ⟨⟨e, he, hreply⟩, hq⟩, rfl⟩
      · rcases q with halt | e | ⟨rest, nodes⟩
        · exact .inr ⟨halt, hreply, rfl⟩
        · refine .inl ⟨_, hreply, ?_⟩
          simp [hfirm e rfl, Production.planApplied, gathered]
        · have hc := h.continues_of_repliesAlone hbranch hreply
          exact .inl ⟨_, hreply, (settles_planFinish (fun _ => rfl) hc).mpr rfl⟩
      · refine .inl ⟨_, hreply, ?_⟩
        simpa [he] using hrest.mpr ⟨q, hq, rfl⟩

/-- A choice makes its node of what the first deciding branch replies. -/
theorem repliesAlone_choice {id : ConsumerId} (hg : S (.memoized id (.choice branches factory))) :
    (Grammar.memoized id (.choice branches factory)).RepliesAlone bindings w r ↔
      ∃ q, FirstOf bindings branches w q ∧ r = gathered factory w q := by
  have hbranches : ∀ g ∈ branches, S g := fun g hmem => h.closed _ g hg (.inl hmem)
  rw [Repetition.repliesAlone_iff h hg]
  constructor
  · rintro ⟨hr, hs⟩
    exact (h.settles_planBranches hr hbranches).mp hs
  · rintro ⟨q, hq, rfl⟩
    have hne : gathered factory w q ≠ .error .outOfFuel := gathered_ne_outOfFuel hq.ne_outOfFuel
    exact ⟨hne, (h.settles_planBranches hne hbranches).mpr ⟨q, hq, rfl⟩⟩

/-- **A lifted choice replies what its first deciding branch replies.** -/
theorem repliesAlone_liftedChoice {g : Grammar} (hg : S g)
    (hmade : (Grammar.liftedChoice branches).CanMake g) :
    g.RepliesAlone bindings w r ↔ FirstOf bindings branches w r := by
  obtain ⟨id, body, hbody, rfl⟩ := Grammar.exists_of_bind_lifted hmade
  obtain ⟨id', rfl⟩ := Grammar.exists_of_choice hbody
  rw [h.repliesAlone_lift hg]
  simp only [h.repliesAlone_choice (h.closed _ _ hg (.inl (.head _)))]
  constructor
  · rintro ⟨made, ⟨q, hq, rfl⟩, rfl⟩
    rwa [map_lifted_gathered_none]
  · intro hr
    exact ⟨_, ⟨r, hr, rfl⟩, (map_lifted_gathered_none r).symm⟩

theorem branches_of_liftedChoice {g : Grammar} (hg : S g)
    (hmade : (Grammar.liftedChoice branches).CanMake g) : ∀ branch ∈ branches, S branch := by
  obtain ⟨id, body, hbody, rfl⟩ := Grammar.exists_of_bind_lifted hmade
  obtain ⟨id', rfl⟩ := Grammar.exists_of_choice hbody
  have hS := h.closed _ _ hg (.inl (.head _))
  exact fun branch hbranch => h.closed _ branch hS (.inl hbranch)

end Repertoire

/-! ## Choices within choices -/

/-- **Choices are associative under lifting, and the first match wins.**  A choice with a lifted
choice of `ys` among its branches answers as the one with `ys` among its own, whatever was tried
before with either table: with a node around the nodes of the first branch that does not fail
recoverably, or with its error, and if there is no such branch, that there was no alternative. -/
theorem nested_choice_answers_iff {env : Environment} {S S' : Grammar → Prop}
    (h : Repertoire env.bindings S) (h' : Repertoire env.bindings S') {xs ys zs : List Grammar}
    {inner : Grammar} (hmade : (Grammar.liftedChoice ys).CanMake inner) {id id' : ConsumerId}
    {factory : Option Factory} (hnested : S (.memoized id (.choice (xs ++ [inner] ++ zs) factory)))
    (hflat : S' (.memoized id' (.choice (xs ++ ys ++ zs) factory))) {w : Window} {s s' : Session}
    (hs : s.Reached env S w.buffer) (hs' : s'.Reached env S' w.buffer) (parent : NodeBuilder) :
    let nested : Grammar := .memoized id (.choice (xs ++ [inner] ++ zs) factory)
    let flat : Grammar := .memoized id' (.choice (xs ++ ys ++ zs) factory)
    let noAlternative : Except Halt Outcome := .ok ⟨.error (.noAlternative w.start none), parent⟩
    (∀ r, nested.Answers env w parent s r ↔ flat.Answers env w parent s' r) ∧
    (∀ r, flat.Answers env w parent s' r ↔
      (∃ before branch after q, xs ++ ys ++ zs = before ++ branch :: after ∧
        (∀ g ∈ before, g.Refuses env.bindings w) ∧ branch.Decides env.bindings w q ∧
        r = (gathered factory w q).map (Reply.outcome parent)) ∨
      (∀ g ∈ xs ++ ys ++ zs, g.Refuses env.bindings w) ∧ r = noAlternative) ∧
    (flat.Answers env w parent s' noAlternative ↔
      ∀ g ∈ xs ++ ys ++ zs, g.Refuses env.bindings w) := by
  intro nested flat noAlternative
  have hinner : S inner := h.closed _ _ hnested (.inl (by simp [Grammar.parts, Production.parts]))
  have hreplies : ∀ r, nested.RepliesAlone env.bindings w r ↔ flat.RepliesAlone env.bindings w r :=
    fun r => by
      rw [h.repliesAlone_choice hnested, h'.repliesAlone_choice hflat]
      simp only [firstOf_splice fun _ => h.repliesAlone_liftedChoice hinner hmade]
  refine ⟨fun r => ?_, fun r => ?_, ?_⟩
  · rw [h.answers_iff_repliesAlone hnested hs, h'.answers_iff_repliesAlone hflat hs']
    simp only [nested, flat, hreplies]
  · rw [h'.answers_iff_repliesAlone hflat hs']
    simp only [h'.repliesAlone_choice hflat, firstOf_iff]
    constructor
    · rintro ⟨_, rfl, q, ⟨before, branch, after, heq, hbefore, hdecides⟩ | ⟨hall, rfl⟩, rfl⟩
      · exact .inl ⟨before, branch, after, q, heq, hbefore, hdecides, rfl⟩
      · exact .inr ⟨hall, rfl⟩
    · rintro (⟨before, branch, after, q, heq, hbefore, hdecides, rfl⟩ | ⟨hall, rfl⟩)
      · exact ⟨_, rfl, q, .inl ⟨before, branch, after, heq, hbefore, hdecides⟩, rfl⟩
      · exact ⟨_, rfl, _, .inr ⟨hall, rfl⟩, rfl⟩
  · rw [h'.answers_failed_iff hflat hs', h'.repliesAlone_choice hflat]
    simp only [true_and, eq_comm, gathered_eq_failed_iff, exists_eq_right]
    exact (firstOf_recoverable_iff rfl).trans (and_iff_right rfl)

/-- The nested choice has a branch whose error is fatal, and the branch behind it that would match
is not tried.  The table holds what an earlier try has left. -/
theorem letters_nested_choice_answers_iff :
    let a : Grammar := .exact "a" none
    let ys : List Grammar := [.exact "b" none, .require (.exact "d" none)]
    let c : Grammar := .exact "c" none
    let factory := some (Factory.constant (.ofPayload .unit))
    let inner : Grammar := .memoized ⟨2⟩ (.lift (.memoized ⟨1⟩ (.choice ys none)) none)
    let nested : Grammar := .memoized ⟨3⟩ (.choice ([a] ++ [inner] ++ [c]) factory)
    let flat : Grammar := .memoized ⟨4⟩ (.choice ([a] ++ ys ++ [c]) factory)
    let w := Window.ofText "c"
    let env : Environment := ⟨[], true⟩
    let s := ((nested.consume env 9 w .empty).exec {}).2
    Repertoire env.bindings (· ∈ nested.subgrammars) ∧
      Repertoire env.bindings (· ∈ flat.subgrammars) ∧
      (Grammar.liftedChoice ys).CanMake inner ∧
      s.Reached env (· ∈ nested.subgrammars) w.buffer ∧
      ∃ e, e.isRecoverable = false ∧ nested.Answers env w .empty s (.ok ⟨.error e, .empty⟩) ∧
        flat.Answers env w .empty {} (.ok ⟨.error e, .empty⟩) := by
  intro a ys c factory inner nested flat w env s
  have h : Repertoire env.bindings (· ∈ nested.subgrammars) := .of_nodup (by decide) (by decide)
  have h' : Repertoire env.bindings (· ∈ flat.subgrammars) := .of_nodup (by decide) (by decide)
  have hmade : (Grammar.liftedChoice ys).CanMake inner := ⟨⟨1, 0⟩, _, rfl⟩
  have hnested : nested ∈ nested.subgrammars := Grammar.self_mem_subgrammars nested
  have hflat : flat ∈ flat.subgrammars := Grammar.self_mem_subgrammars flat
  have hs : s.Reached env (· ∈ nested.subgrammars) w.buffer :=
    .consumed 9 .empty (.fresh rfl) hnested rfl
  have hs' : ({} : Session).Reached env (· ∈ flat.subgrammars) w.buffer := .fresh rfl
  obtain ⟨hsame, hfirst, -⟩ := nested_choice_answers_iff h h' hmade hnested hflat hs hs' .empty
  have hrefuses : ∀ g ∈ [a, .exact "b" none], g.Refuses env.bindings w :=
    List.forall_mem_cons.mpr ⟨⟨_, rfl, ok_ne_outOfFuel _, 1, by rfl⟩,
      List.forall_mem_singleton.mpr ⟨_, rfl, ok_ne_outOfFuel _, 1, by rfl⟩⟩
  obtain ⟨e, hfatal, hreply⟩ : ∃ e, e.isRecoverable = false ∧
      (Grammar.require (.exact "d" none)).RepliesAlone env.bindings w (.ok (.error e)) :=
    ⟨_, rfl, ok_ne_outOfFuel _, 2, by rfl⟩
  have hdecides : (Grammar.require (.exact "d" none)).Decides env.bindings w (.ok (.error e)) :=
    ⟨hreply, firm_of_fatal hfatal⟩
  have hanswers' : flat.Answers env w .empty {} (.ok ⟨.error e, .empty⟩) :=
    (hfirst _).mpr (.inl ⟨[a, .exact "b" none], _, [c], _, rfl, hrefuses, hdecides, rfl⟩)
  exact ⟨h, h', hmade, hs, e, hfatal, (hsame _).mpr hanswers', hanswers'⟩

end Packrat
