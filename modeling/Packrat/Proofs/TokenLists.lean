import Mathlib.Data.List.Pairwise
import Packrat.Proofs.CharacterRuns
import Packrat.Proofs.Choices

/-! # The first token that fits

A list of tokens is matched by a lifted choice among them.  The token taken is the first one listed
that the text in view starts with (`Picks`): tokens are not compared by their lengths, and one that
has a token listed before it as a prefix is taken on no text (`exists_picks_iff`).  Where no token
is a prefix of another, no more than one of them fits, and their order does not matter
(`Window.pick_eq_of_perm`).
-/
namespace Packrat

/-! ## Picking a token -/

/-- The token at place `k` of a list is picked on a window: the text in view starts with it, and
with none that is listed before it. -/
structure Picks (tokens : List String) (w : Window) (k : Nat) (token : String) : Prop where
  listed : tokens[k]? = some token
  fits : token.toList <+: w.view
  earliest : ∀ j < k, ∀ earlier, tokens[j]? = some earlier → ¬ earlier.toList <+: w.view

/-- Neither of two tokens is a prefix of the other. -/
def Unrelated (a b : String) : Prop := ¬ a.toList <+: b.toList ∧ ¬ b.toList <+: a.toList

theorem Unrelated.symm {a b : String} (h : Unrelated a b) : Unrelated b a := ⟨h.2, h.1⟩

instance : Std.Symm Unrelated := ⟨fun _ _ => Unrelated.symm⟩

namespace Window

theorem startsWith_go_iff {w : Window} {cs : List Char} {index : Nat} :
    startsWith.go w index cs = true ↔ cs <+: w.view.drop index := by
  induction cs generalizing index with
  | nil => simp [startsWith.go]
  | cons c cs ih =>
    rw [startsWith.go, Bool.and_eq_true, ih, charAt?_eq_getElem?, ← List.head?_drop,
      ← List.tail_drop]
    cases w.view.drop index with
    | nil => simp
    | cons first rest =>
      rw [List.head?_cons, List.tail_cons, List.cons_prefix_cons, beq_iff_eq, Option.some_inj]
      exact and_congr_left' eq_comm

/-- Comparing one character after the other tells whether the text in view starts with them. -/
theorem startsWith_iff {w : Window} {cs : List Char} : w.startsWith cs = true ↔ cs <+: w.view := by
  rw [startsWith, startsWith_go_iff, List.drop_zero]

/-- The first of `tokens` that the text in view starts with. -/
def pick (w : Window) (tokens : List String) : Option String :=
  tokens.find? fun token => w.startsWith token.toList

variable {w : Window} {tokens tokens' : List String} {token : String}

theorem pick_eq_some_iff : w.pick tokens = some token ↔ ∃ k, Picks tokens w k token := by
  rw [pick, List.find?_eq_some_iff_getElem, startsWith_iff]
  constructor
  · rintro ⟨hfits, k, hk, rfl, hearliest⟩
    refine ⟨k, List.getElem?_eq_getElem hk, hfits, fun j hj earlier hlisted hearlier => ?_⟩
    obtain ⟨hlt, rfl⟩ := List.getElem?_eq_some_iff.mp hlisted
    have hnot := hearliest j hj
    rw [startsWith_iff.mpr hearlier] at hnot
    cases hnot
  · rintro ⟨k, hlisted, hfits, hearliest⟩
    obtain ⟨hk, rfl⟩ := List.getElem?_eq_some_iff.mp hlisted
    refine ⟨hfits, k, hk, rfl, fun j hj => ?_⟩
    have hnot := hearliest j hj _ (List.getElem?_eq_getElem (Nat.lt_trans hj hk))
    rw [← startsWith_iff, Bool.not_eq_true] at hnot
    rw [hnot]
    rfl

theorem fits_of_pick (h : w.pick tokens = some token) :
    token ∈ tokens ∧ token.toList <+: w.view := by
  obtain ⟨k, hpicks⟩ := pick_eq_some_iff.mp h
  exact ⟨List.mem_of_getElem? hpicks.listed, hpicks.fits⟩

theorem pick_eq_none_iff : w.pick tokens = none ↔ ∀ token ∈ tokens, ¬ token.toList <+: w.view := by
  simp only [pick, List.find?_eq_none, startsWith_iff]

/-- A token is picked exactly if one fits. -/
theorem exists_pick_iff :
    (∃ token, w.pick tokens = some token) ↔ ∃ token ∈ tokens, token.toList <+: w.view := by
  rw [← Option.ne_none_iff_exists', ne_eq, pick_eq_none_iff]
  push Not
  rfl

/-- Where no token is a prefix of another, a token that fits is picked. -/
theorem pick_eq_some_of_unrelated (hunrelated : tokens.Pairwise Unrelated) :
    w.pick tokens = some token ↔ token ∈ tokens ∧ token.toList <+: w.view := by
  refine ⟨fits_of_pick, ?_⟩
  rintro ⟨hmem, hfits⟩
  obtain ⟨other, hother⟩ := exists_pick_iff.mpr ⟨token, hmem, hfits⟩
  obtain ⟨hmem', hfits'⟩ := fits_of_pick hother
  -- Of two prefixes of one text, one is a prefix of the other.
  have hrelated := List.prefix_or_prefix_of_prefix hfits hfits'
  by_contra hne
  have hdistinct : token ≠ other := by
    rintro rfl
    exact hne hother
  have hneither := hunrelated.forall hmem hmem' hdistinct
  exact hrelated.elim hneither.1 hneither.2

/-- **The order of tokens none of which is a prefix of another does not matter.** -/
theorem pick_eq_of_perm (hperm : tokens'.Perm tokens)
    (hunrelated : tokens.Pairwise Unrelated) : w.pick tokens' = w.pick tokens := by
  have hunrelated' := (hperm.pairwise_iff Unrelated.symm).mpr hunrelated
  refine Option.ext fun token => ?_
  rw [pick_eq_some_of_unrelated hunrelated, pick_eq_some_of_unrelated hunrelated', hperm.mem_iff]

@[simp] theorem view_ofText (text : String) : (ofText text).view = text.toList := by
  simp [view, ofText]

end Window

/-- **A token is picked on some text exactly if it has no token listed before it as a prefix.** -/
theorem exists_picks_iff {tokens : List String} {k : Nat} {token : String} :
    (∃ w, Picks tokens w k token) ↔ tokens[k]? = some token ∧
      ∀ j < k, ∀ earlier, tokens[j]? = some earlier → ¬ earlier.toList <+: token.toList := by
  constructor
  · rintro ⟨w, hpicks⟩
    exact ⟨hpicks.listed, fun j hj earlier hlisted hstarts =>
      hpicks.earliest j hj earlier hlisted (hstarts.trans hpicks.fits)⟩
  · rintro ⟨hlisted, hearliest⟩
    refine ⟨.ofText token, hlisted, ?_, ?_⟩
    · rw [Window.view_ofText]
    · rwa [Window.view_ofText]

/-! ## Replies -/

/-- The node of a token at the start of `w`. -/
def tokenNode (w : Window) (token : String) : Node :=
  ⟨some ⟨w.start, w.start + token.length⟩, some token, none, []⟩

/-- The reply for the token that was picked. -/
def Reply.ofPick (w : Window) : Option String → Reply
  | some token => .ok (w.drop token.length, [tokenNode w token])
  | none => .error (.noAlternative w.start none)

theorem Grammar.exactReply_of_startsWith {w : Window} {token : String}
    (h : w.startsWith token.toList = true) (hsize : w.buffer.size < positionBound) :
    exactReply token none w = .ok (.ok (w.drop token.length, [tokenNode w token])) := by
  obtain ⟨hlength, -⟩ := Window.startsWith_token h
  rw [exactReply, if_pos h, Window.addPosition_eq hsize hlength, ok_bind, leafReply,
    Window.advance_eq_drop hlength]
  rfl

section Tokens

variable {bindings : Bindings} {S : Grammar → Prop} (h : Repertoire bindings S)
  {tokens : List String} {w : Window} {r : Except Halt Reply}
include h

/-- A list of tokens replies for the one that is picked. -/
theorem Repertoire.firstOf_tokens (hS : ∀ token ∈ tokens, S (.exact token none))
    (hsize : w.buffer.size < positionBound) :
    FirstOf bindings (tokens.map fun token => .exact token none) w r ↔
      r = .ok (.ofPick w (w.pick tokens)) := by
  induction tokens with
  | nil => exact firstOf_nil
  | cons token tokens ih =>
    have htoken : S (.exact token none) := hS token (.head _)
    have hreply : ∀ q, (Grammar.exact token none).RepliesAlone bindings w q ↔
        q = (Grammar.exactReply token none w).mapError .violation :=
      fun _ => h.repliesAlone_of_asks_nothing htoken rfl
    rw [List.map_cons, firstOf_cons, ih fun other hother => hS other (.tail _ hother),
      Grammar.Decides, Grammar.Refuses]
    cases hfits : w.startsWith token.toList with
    | true =>
      have hpick : w.pick (token :: tokens) = some token := List.find?_cons_of_pos hfits
      rw [Grammar.exactReply_of_startsWith hfits hsize] at hreply
      simp only [hreply, hpick]
      constructor
      · rintro (⟨rfl, -⟩ | ⟨⟨e, -, ⟨⟩⟩, -⟩)
        rfl
      · rintro rfl
        exact .inl ⟨rfl, firm_matched _⟩
    | false =>
      have hpick : w.pick (token :: tokens) = w.pick tokens :=
        List.find?_cons_of_neg (Bool.eq_false_iff.mp hfits)
      rw [Grammar.exactReply, hfits, if_neg Bool.false_ne_true] at hreply
      simp only [hreply, hpick]
      constructor
      · rintro (⟨rfl, hfirm⟩ | ⟨-, hrest⟩)
        · cases hfirm _ rfl
        · exact hrest
      · intro hrest
        exact .inr ⟨⟨_, rfl, rfl⟩, hrest⟩

/-- **The choice among tokens replies for the one that is picked.** -/
theorem Repertoire.repliesAlone_oneOf {g : Grammar} (hg : S g)
    (hmade : (Grammar.oneOf tokens).CanMake g) (hsize : w.buffer.size < positionBound) :
    g.RepliesAlone bindings w r ↔ r = .ok (.ofPick w (w.pick tokens)) := by
  rw [h.repliesAlone_liftedChoice hg hmade]
  refine h.firstOf_tokens (fun token htoken => ?_) hsize
  exact h.branches_of_liftedChoice hg hmade _ (List.mem_map_of_mem htoken)

end Tokens

theorem Reply.ofPick_eq_ok_iff {w rest : Window} {picked : Option String} {nodes : List Node} :
    .ok (rest, nodes) = Reply.ofPick w picked ↔
      ∃ token, picked = some token ∧ rest = w.drop token.length ∧ nodes = [tokenNode w token] := by
  cases picked <;> simp [Reply.ofPick]

theorem Reply.ofPick_eq_error_iff {w : Window} {picked : Option String} {e : ParseError} :
    .error e = Reply.ofPick w picked ↔ picked = none ∧ e = .noAlternative w.start none := by
  cases picked <;> simp [Reply.ofPick]

/-- A choice among tokens can be built, from any supply, exactly if there is a token. -/
theorem Grammar.oneOf_builds_iff {tokens : List String} :
    (∀ supply, ∃ g supply', (Grammar.oneOf tokens).run.run supply = (.ok g, supply')) ↔
      tokens ≠ [] := by
  cases tokens with
  | nil =>
    refine ⟨fun h => ?_, fun h => absurd rfl h⟩
    obtain ⟨g, supply', hrun⟩ := h {}
    cases hrun
  | cons token tokens => exact ⟨fun _ => List.cons_ne_nil _ _, fun _ supply => ⟨_, _, rfl⟩⟩

/-- **The first token that fits is taken.**  A choice among tokens can be built if there is one.  It
matches exactly where the text in view starts with one of them: it takes the first one listed of
those, all of its characters and no more, and appends one node that holds it.  Elsewhere it fails
with no alternative, at the start of the window, and appends nothing.  So a token is never taken, on
no text, exactly if one listed before it is a prefix of it; and where no token is a prefix of
another, another order of them answers the same. -/
theorem oneOf_answers_iff {env : Environment} {S : Grammar → Prop}
    (h : Repertoire env.bindings S) {tokens : List String} {g : Grammar} (hg : S g)
    (hmade : (Grammar.oneOf tokens).CanMake g) {w : Window} (hsize : w.buffer.size < positionBound)
    {s : Session} (hs : s.Reached env S w.buffer) (parent : NodeBuilder) :
    (∀ rest after, g.Answers env w parent s (.ok ⟨.ok rest, after⟩) ↔
      ∃ k token, Picks tokens w k token ∧ w.Continues rest ∧
        rest.start = w.start + token.length ∧
        after = parent.push ⟨some ⟨w.start, rest.start⟩, some token, none, []⟩) ∧
    ((∃ rest after, g.Answers env w parent s (.ok ⟨.ok rest, after⟩)) ↔
      ∃ token ∈ tokens, token.toList <+: w.view) ∧
    (∀ e after, g.Answers env w parent s (.ok ⟨.error e, after⟩) ↔
      (∀ token ∈ tokens, ¬ token.toList <+: w.view) ∧ after = parent ∧
        e = .noAlternative w.start none) ∧
    (∀ halt, ¬ g.Answers env w parent s (.error halt)) ∧
    (∀ k token, (∃ w', Picks tokens w' k token) ↔ tokens[k]? = some token ∧
      ∀ j < k, ∀ earlier, tokens[j]? = some earlier → ¬ earlier.toList <+: token.toList) ∧
    (∀ {S' : Grammar → Prop} {tokens' : List String} {g' : Grammar} {s' : Session},
      Repertoire env.bindings S' → S' g' → (Grammar.oneOf tokens').CanMake g' →
      s'.Reached env S' w.buffer → tokens'.Perm tokens → tokens.Pairwise Unrelated →
      ∀ r, g.Answers env w parent s r ↔ g'.Answers env w parent s' r) ∧
    ∀ list : List String, list ≠ [] ↔
      ∀ supply, ∃ g supply', (Grammar.oneOf list).run.run supply = (.ok g, supply') := by
  have hreply : ∀ r, g.RepliesAlone env.bindings w r ↔ r = .ok (.ofPick w (w.pick tokens)) :=
    fun _ => h.repliesAlone_oneOf hg hmade hsize
  have hmatched : ∀ rest after, g.Answers env w parent s (.ok ⟨.ok rest, after⟩) ↔
      ∃ token, w.pick tokens = some token ∧ rest = w.drop token.length ∧
        after = parent.extend [tokenNode w token] := by
    intro rest after
    simp only [h.answers_matched_iff hg hs, hreply, Except.ok.injEq, Reply.ofPick_eq_ok_iff]
    constructor
    · rintro ⟨_, rfl, token, hpick, hrest, rfl⟩
      exact ⟨token, hpick, hrest, rfl⟩
    · rintro ⟨token, hpick, hrest, rfl⟩
      exact ⟨_, rfl, token, hpick, hrest, rfl⟩
  refine ⟨fun rest after => ?_, ?_, fun e after => ?_, fun halt => ?_, fun k token => ?_, ?_, ?_⟩
  · rw [hmatched]
    constructor
    · rintro ⟨token, hpick, rfl, rfl⟩
      obtain ⟨k, hpicks⟩ := Window.pick_eq_some_iff.mp hpick
      obtain ⟨hlength, -⟩ := Window.startsWith_token (Window.startsWith_iff.mpr hpicks.fits)
      have hstart := Window.start_drop hlength
      refine ⟨k, token, hpicks, w.continues_drop _, hstart, ?_⟩
      rw [hstart, parent.push_eq_extend]
      rfl
    · rintro ⟨k, token, hpicks, hc, hstart, rfl⟩
      obtain ⟨hlength, -⟩ := Window.startsWith_token (Window.startsWith_iff.mpr hpicks.fits)
      refine ⟨token, Window.pick_eq_some_iff.mpr ⟨k, hpicks⟩,
        (Window.eq_drop_iff hlength).mpr ⟨hc, hstart⟩, ?_⟩
      rw [hstart, parent.push_eq_extend]
      rfl
  · simp only [hmatched, ← Window.exists_pick_iff]
    constructor
    · rintro ⟨_, _, token, hpick, -, -⟩
      exact ⟨token, hpick⟩
    · rintro ⟨token, hpick⟩
      exact ⟨_, _, token, hpick, rfl, rfl⟩
  · simp only [h.answers_failed_iff hg hs, hreply, Except.ok.injEq, Reply.ofPick_eq_error_iff,
      Window.pick_eq_none_iff, and_left_comm]
  · rw [h.answers_halted_iff hg hs, hreply]
    exact nofun
  · exact exists_picks_iff
  · intro S' tokens' g' s' h' hg' hmade' hs' hperm hunrelated r
    rw [h.answers_iff_repliesAlone hg hs, h'.answers_iff_repliesAlone hg' hs']
    simp only [hreply, h'.repliesAlone_oneOf hg' hmade' hsize,
      Window.pick_eq_of_perm hperm hunrelated]
  · exact fun list => Grammar.oneOf_builds_iff.symm

/-- Of two operators that fit, the shorter one is taken where it is listed first, also when the
table holds what an earlier try has left; the longer one is taken on no text. -/
theorem operators_oneOf_answers_iff :
    let tokens := [">", ">=", "="]
    let g : Grammar := .memoized ⟨2⟩ (.lift
      (.memoized ⟨1⟩ (.choice (tokens.map fun token => .exact token none) none)) none)
    let w := Window.ofText ">=2"
    let env : Environment := ⟨[], true⟩
    let s := ((g.consume env 9 w .empty).exec {}).2
    Repertoire env.bindings (· ∈ g.subgrammars) ∧ g ∈ g.subgrammars ∧
      (Grammar.oneOf tokens).CanMake g ∧ w.buffer.size < positionBound ∧
      s.Reached env (· ∈ g.subgrammars) w.buffer ∧
      (∃ rest after, g.Answers env w .empty s (.ok ⟨.ok rest, after⟩) ∧ rest.start = 1) ∧
      ¬ ∃ w', Picks tokens w' 1 ">=" := by
  intro tokens g w env s
  have h : Repertoire env.bindings (· ∈ g.subgrammars) := .of_nodup (by decide) (by decide)
  have hg : g ∈ g.subgrammars := Grammar.self_mem_subgrammars g
  have hmade : (Grammar.oneOf tokens).CanMake g := ⟨⟨1, 0⟩, _, rfl⟩
  have hsize : w.buffer.size < positionBound := by decide
  have hs : s.Reached env (· ∈ g.subgrammars) w.buffer := .consumed 9 .empty (.fresh rfl) hg rfl
  obtain ⟨hmatched, -, -, -, hpicked, -⟩ := oneOf_answers_iff h hg hmade hsize hs .empty
  have hpicks : Picks tokens w 0 ">" := ⟨rfl, by decide, nofun⟩
  have hanswers := (hmatched (w.drop 1) _).mpr
    ⟨0, ">", hpicks, w.continues_drop 1, by decide, rfl⟩
  refine ⟨h, hg, hmade, hsize, hs, ⟨w.drop 1, _, hanswers, by decide⟩, fun hreached => ?_⟩
  exact ((hpicked 1 ">=").mp hreached).2 0 Nat.one_pos ">" rfl (by decide)

end Packrat
