import Mathlib.Data.Fintype.Card
import Mathlib.Data.Set.Finite.Basic
import Packrat.Proofs.Nullability

/-! # Grammars without left recursion terminate

A grammar calls another one **on its left** when it may call it before a character has been taken
(`Grammar.LeftCalls`).  If no rule of a grammar leads back to itself that way, then the grammar ends
on every window, whatever members of its repertoire have filled the table before.

Every question of a plan either looks at less text, or is a call on the left; and since a grammar is
made of finitely many grammars, calls on the left come to an end as well.  So plans settle by
induction on the length of the window and, for windows of one length, on calls on the left
(`Repertoire.ends_of_leftFree`).  Two loops are left that no call explains: a repetition without an
upper bound goes on only while its body takes something, and one with a bound takes no more turns
than that.
-/
namespace Packrat

namespace Grammar

/-- Whether the grammar asks its parts one after the other. -/
def isSequence : Grammar → Bool
  | memoized _ (.sequence ..) => true
  | _ => false

/-- `g.LeftCalls bindings h`: `g` may call `h` before a character has been taken.  A part of a
sequence is called so if all parts before it can match nothing, and any other part in any case. -/
inductive LeftCalls (bindings : Bindings) : Grammar → Grammar → Prop
  | part {g h : Grammar} : g.isSequence = false → h ∈ g.parts → LeftCalls bindings g h
  | element {id : ConsumerId} {before after : List Grammar} {part : Grammar}
      {factory : Option Factory} : (∀ g ∈ before, g.CanMatchEmpty bindings) →
      LeftCalls bindings (.memoized id (.sequence (before ++ part :: after) factory)) part
  | target {name : String} {target : Grammar} : bindings.target? name = some target →
      LeftCalls bindings (.reference name) target

variable {bindings : Bindings}

theorem LeftCalls.mentions {g h : Grammar} (hc : g.LeftCalls bindings h) :
    g.Mentions bindings h := by
  cases hc with
  | part _ hpart => exact .inl hpart
  | element _ => exact .inl (List.mem_append_right _ (.head _))
  | target ht => exact .inr ⟨_, rfl, ht⟩

/-- A grammar has finitely many rules. -/
theorem finite_uses (bindings : Bindings) (g : Grammar) : Finite { h // g.Uses bindings h } := by
  have hwritten := List.finite_toSet
    (g.subgrammars ++ bindings.flatMap fun binding => binding.2.subgrammars)
  exact (hwritten.subset fun h hu => Uses.mem_written hu).to_subtype

/-- If no rule leads back to itself on the left, there is no infinite chain of calls on the left. -/
theorem wellFounded_leftCalls {g : Grammar}
    (hleft : ∀ h, g.Uses bindings h → ¬ Relation.TransGen (LeftCalls bindings) h h) :
    WellFounded fun a b : { h // g.Uses bindings h } => b.1.LeftCalls bindings a.1 := by
  -- On finitely many rules, a transitive relation without loops is well-founded.
  have hfinite := finite_uses bindings g
  let calledBy (a b : { h // g.Uses bindings h }) : Prop := b.1.LeftCalls bindings a.1
  have hirrefl : Std.Irrefl (Relation.TransGen calledBy) := by
    refine ⟨fun a ha => hleft a.1 a.2 ?_⟩
    exact Relation.TransGen.lift Subtype.val (fun _ _ hc => hc) _ _ (Relation.transGen_swap.mp ha)
  have htrans : WellFounded (Relation.TransGen calledBy) :=
    Finite.wellFounded_of_trans_of_irrefl _
  exact Subrelation.wf (fun {a b} (hc : calledBy a b) => Relation.TransGen.single hc) htrans

end Grammar

/-! ## Plans whose questions end -/

/-- Consuming `w` by `g` settles without running out of fuel. -/
def Grammar.Ends (bindings : Bindings) (g : Grammar) (w : Window) : Prop :=
  ∃ r, r ≠ .error .outOfFuel ∧ Settles bindings (g.plan bindings w) r

/-- The reply is what `g` settles with on `w`, and it fits `w`. -/
structure Replied (bindings : Bindings) (g : Grammar) (w : Window) (reply : Reply) : Prop where
  settles : Settles bindings (g.plan bindings w) (.ok reply)
  fits : reply.Fits w

theorem Window.Continues.eq_of_start {w w' : Window} (h : w.Continues w')
    (hstart : w'.start = w.start) : w' = w := by
  obtain ⟨buffer, start, stop, hle, hstop⟩ := w'
  obtain ⟨rfl, rfl, -⟩ := h
  cases hstart
  rfl

namespace Repertoire

variable {bindings : Bindings} {S : Grammar → Prop} (h : Repertoire bindings S)
include h

/-- A plan settles if its questions end and it does not run out of fuel itself. -/
theorem settles_of_meets {α : Type} {p : Plan α}
    (hp : p.Meets (fun g w => S g ∧ g.Ends bindings w) (Replied bindings)
      (· ≠ .error .outOfFuel)) :
    ∃ r, r ≠ .error .outOfFuel ∧ Settles bindings p r := by
  induction p with
  | done r => exact ⟨r, hp, .done⟩
  | ask g w next ih =>
    obtain ⟨⟨hg, r, hr, hs⟩, hnext⟩ := hp
    rcases r with e | reply
    · exact ⟨.error e, error_ne_outOfFuel hr, .halt hs⟩
    · obtain ⟨r', hr', hs'⟩ := ih reply (hnext reply ⟨hs, h.fits hg hs⟩)
      exact ⟨r', hr', .ask hs hs'⟩

/-- What takes nothing of a window can match nothing. -/
theorem canMatchEmpty_of_replied {g : Grammar} (hg : S g) {w rest : Window} {nodes : List Node}
    (hr : Replied bindings g w (.ok (rest, nodes))) (hstart : rest.start = w.start) :
    g.CanMatchEmpty bindings :=
  (h.canMatchEmpty_iff hg).mpr ⟨w, rest, nodes, hr.settles, hstart⟩

section Productions

variable {factory : Option Factory} {input : Window}

omit h in
theorem planFinish_ends {pre : Grammar → Window → Prop} {post : Grammar → Window → Reply → Prop}
    {rest : Window} {nodes : List Node} :
    (Production.planFinish factory input rest nodes).Meets pre post (· ≠ .error .outOfFuel) :=
  mapError_violation_ne _

/-- The parts end if they do further on, and if those do at the start before which nothing need be
taken. -/
theorem planParts_ends {whole : List Grammar} (hS : ∀ g ∈ whole, S g)
    (hfar : ∀ g ∈ whole, ∀ w, input.Continues w → input.start < w.start → g.Ends bindings w)
    (hnear : ∀ before part after, whole = before ++ part :: after →
      (∀ g ∈ before, g.CanMatchEmpty bindings) → part.Ends bindings input) :
    ∀ (before parts : List Grammar) {cursor : Window} {nodes : List Node},
    whole = before ++ parts → input.Continues cursor →
    (cursor.start = input.start → ∀ g ∈ before, g.CanMatchEmpty bindings) →
    (Production.planParts factory input parts cursor nodes).Meets
      (fun g w => S g ∧ g.Ends bindings w) (Replied bindings) (· ≠ .error .outOfFuel)
  | _, [], _, _, _, _, _ => planFinish_ends
  | before, part :: parts, cursor, nodes, hwhole, hc, hempty => by
    have hpart : part ∈ whole := hwhole ▸ List.mem_append_right _ (.head _)
    have hends : part.Ends bindings cursor := by
      by_cases hstart : cursor.start = input.start
      · rw [hc.eq_of_start hstart]
        exact hnear before part parts hwhole (hempty hstart)
      · have hle := hc.start_le
        exact hfar part hpart cursor hc (by omega)
    refine ⟨⟨hS part hpart, hends⟩, fun reply hr => ?_⟩
    rcases reply with e | ⟨rest, more⟩
    · exact ok_ne_outOfFuel _
    · have hrest : cursor.Continues rest := hr.fits
      refine planParts_ends hS hfar hnear (before ++ [part]) parts (by simp [hwhole])
        (hc.trans hrest) fun hstart g hg => ?_
      -- Nothing has been taken so far, so `part` took nothing either.
      have hle := hc.start_le
      have hle' := hrest.start_le
      rcases List.mem_append.mp hg with hg | hg
      · exact hempty (by omega) g hg
      · obtain rfl := List.mem_singleton.mp hg
        exact h.canMatchEmpty_of_replied (hS g hpart) hr (by omega)

omit h in
theorem planBranches_ends : ∀ {branches : List Grammar},
    (∀ g ∈ branches, S g ∧ g.Ends bindings input) →
    (Production.planBranches factory input branches).Meets
      (fun g w => S g ∧ g.Ends bindings w) (Replied bindings) (· ≠ .error .outOfFuel)
  | [], _ => ok_ne_outOfFuel _
  | branch :: branches, hb => by
    refine ⟨hb branch (.head _), fun reply hr => ?_⟩
    rcases reply with e | ⟨rest, nodes⟩
    · dsimp only
      split
      · exact planBranches_ends fun g hg => hb g (.tail _ hg)
      · exact ok_ne_outOfFuel _
    · exact planFinish_ends

omit h in
theorem planFinishRepetition_ends {pre : Grammar → Window → Prop}
    {post : Grammar → Window → Reply → Prop} {min count : Nat} {cursor : Window}
    {nodes : List Node} :
    (Production.planFinishRepetition min factory input cursor count nodes).Meets pre post
      (· ≠ .error .outOfFuel) := by
  rw [Production.planFinishRepetition]
  split
  · exact ok_ne_outOfFuel _
  · exact planFinish_ends

omit h in
/-- The matches of a body end: without an upper bound there are more turns left than characters. -/
theorem planMatches_ends {min : Nat} {max : Option Nat} {body : Grammar} (hS : S body)
    (hbody : ∀ w, input.Continues w → body.Ends bindings w) :
    ∀ {left count : Nat} {cursor : Window} {nodes : List Node}, input.Continues cursor →
    (max = none → cursor.length < left) →
    (Production.planMatches min max body factory input left count cursor nodes).Meets
      (fun g w => S g ∧ g.Ends bindings w) (Replied bindings) (· ≠ .error .outOfFuel)
  | 0, count, cursor, nodes, _, hleft => by
    rw [Production.planMatches]
    cases max with
    | none => exact absurd (hleft rfl) (Nat.not_lt_zero _)
    | some bound => exact planFinishRepetition_ends
  | left + 1, count, cursor, nodes, hc, hleft => by
    refine ⟨⟨hS, hbody cursor hc⟩, fun reply hr => ?_⟩
    rcases reply with e | ⟨rest, more⟩
    · dsimp only
      split
      · exact planFinishRepetition_ends
      · exact ok_ne_outOfFuel _
    · have hrest : cursor.Continues rest := hr.fits
      dsimp only
      cases addPosition count 1 with
      | error v => exact mapError_violation_ne (.error v)
      | ok count' =>
        simp only [Plan.check_ok, Plan.answer_andThen]
        by_cases hstop : (max.isNone && !decide (cursor.start < rest.start)) = true
        · rw [if_pos hstop]
          exact planFinishRepetition_ends
        · rw [if_neg hstop]
          refine planMatches_ends hS hbody (hc.trans hrest) fun hmax => ?_
          -- The body took something, so fewer characters are left.
          have hmoved : cursor.start < rest.start := by simpa [hmax] using hstop
          exact Nat.lt_of_lt_of_le (hrest.length_lt hmoved) (Nat.le_of_lt_succ (hleft hmax))

end Productions

/-- The plan of a production settles if its parts end further on, and if those it calls on its left
end at the start. -/
theorem production_ends {id : ConsumerId} {production : Production}
    (hg : S (.memoized id production)) {input : Window}
    (hfar : ∀ g' w, g' ∈ production.parts → input.Continues w → input.start < w.start →
      g'.Ends bindings w)
    (hnear : ∀ g', (Grammar.memoized id production).LeftCalls bindings g' →
      g'.Ends bindings input) :
    (production.plan input).Meets (fun g w => S g ∧ g.Ends bindings w) (Replied bindings)
      (· ≠ .error .outOfFuel) := by
  have hpart : ∀ g' ∈ production.parts, S g' := fun g' hg' => h.closed _ g' hg (.inl hg')
  have hleft : ∀ g' ∈ production.parts, (Grammar.memoized id production).isSequence = false →
      S g' ∧ g'.Ends bindings input :=
    fun g' hg' hs => ⟨hpart g' hg', hnear g' (.part hs hg')⟩
  cases production with
  | sequence parts factory =>
    refine h.planParts_ends hpart (fun g' hg' w => hfar g' w hg') ?_ [] parts rfl (.refl input)
      fun _ => nofun
    rintro before part after rfl hempty
    exact hnear part (.element hempty)
  | choice branches factory => exact planBranches_ends fun g' hg' => hleft g' hg' rfl
  | repetition min max body factory =>
    -- The body ends at the start because it is called on the left, and else because it is shorter.
    refine planMatches_ends (hpart body (.head _)) (fun w hc => ?_) (.refl input) ?_
    · by_cases hstart : w.start = input.start
      · rw [hc.eq_of_start hstart]
        exact (hleft body (.head _) rfl).2
      · have hle := hc.start_le
        exact hfar body w (.head _) hc (by omega)
    · rintro rfl
      exact Nat.lt_succ_self _
  | lift body factory =>
    refine ⟨hleft body (.head _) rfl, fun reply _ => ?_⟩
    rcases reply with e | ⟨rest, nodes⟩
    · exact ok_ne_outOfFuel _
    · exact planFinish_ends
  | join joint body factory =>
    refine ⟨hleft body (.head _) rfl, fun reply _ => ?_⟩
    rcases reply with e | ⟨rest, nodes⟩
    · exact ok_ne_outOfFuel _
    · exact mapError_violation_ne _
  | preserve body factory =>
    refine ⟨hleft body (.head _) rfl, fun reply _ => ?_⟩
    rcases reply with e | ⟨rest, nodes⟩
    · exact ok_ne_outOfFuel _
    · exact mapError_violation_ne _

/-- The plan of a member settles if its parts end further on, and if those it calls on its left end
at the start. -/
theorem plan_ends {g : Grammar} (hg : S g) {input : Window}
    (hfar : ∀ g' w, g.Mentions bindings g' → input.Continues w → input.start < w.start →
      g'.Ends bindings w)
    (hnear : ∀ g' w, g.LeftCalls bindings g' → input.Encloses w → w.start = input.start →
      g'.Ends bindings w) :
    (g.plan bindings input).Meets (fun g w => S g ∧ g.Ends bindings w) (Replied bindings)
      (· ≠ .error .outOfFuel) := by
  have here : input.Encloses input := (Window.Continues.refl input).encloses
  have hpart : ∀ g' ∈ g.parts, S g' := fun g' hg' => h.closed g g' hg (.inl hg')
  have hleft : ∀ g' ∈ g.parts, g.isSequence = false → S g' ∧ g'.Ends bindings input :=
    fun g' hg' hs => ⟨hpart g' hg', hnear g' input (.part hs hg') here rfl⟩
  cases g with
  | exact token factory => exact mapError_violation_ne _
  | charRun min max cls factory => exact mapError_violation_ne _
  | endOfInput => exact ok_ne_outOfFuel _
  | skip body => exact ⟨hleft body (.head _) rfl, fun _ _ => ok_ne_outOfFuel _⟩
  | require body => exact ⟨hleft body (.head _) rfl, fun _ _ => ok_ne_outOfFuel _⟩
  | group name body => exact ⟨hleft body (.head _) rfl, fun _ _ => ok_ne_outOfFuel _⟩
  | replace translator body =>
    refine ⟨hleft body (.head _) rfl, fun reply _ => ?_⟩
    rcases reply with e | ⟨rest, nodes⟩
    · exact ok_ne_outOfFuel _
    · exact mapError_violation_ne _
  | reference name =>
    rw [Grammar.plan]
    cases ht : bindings.target? name with
    | none => exact ok_ne_outOfFuel _
    | some target =>
      have hS : S target := h.closed _ _ hg (.inr ⟨name, rfl, ht⟩)
      exact ⟨⟨hS, hnear target input (.target ht) here rfl⟩, fun _ _ => ok_ne_outOfFuel _⟩
  | memoized id production =>
    have happlied : ∀ x, (production.planApplied x).Meets
        (fun g w => S g ∧ g.Ends bindings w) (Replied bindings) (· ≠ .error .outOfFuel) := by
      rintro (e | ⟨rest, me⟩)
      · exact ok_ne_outOfFuel _
      · exact mapError_violation_ne _
    exact (h.production_ends hg (fun g' w hpart => hfar g' w (.inl hpart))
      fun g' hcall => hnear g' input hcall here rfl).andThen (fun x _ => happlied x)
      fun e hne => error_ne_outOfFuel hne
  | windowed size body =>
    rw [Grammar.plan]
    cases hn : input.narrow input.start (input.start + min size input.length) with
    | error v => exact mapError_violation_ne (.error v)
    | ok inner =>
      have hinner := (Window.narrow_eq_ok hn).2.1
      have hends := hnear body inner (.part rfl (.head _)) (Window.encloses_of_narrow hn) hinner
      refine ⟨⟨hpart body (.head _), hends⟩, fun reply _ => ?_⟩
      rcases reply with e | ⟨rest, nodes⟩
      · exact ok_ne_outOfFuel _
      · exact mapError_violation_ne _
  | counted name body => cases h.isCombinator _ hg
  | once flag first later => cases h.isCombinator _ hg
  | fail error => cases h.isCombinator _ hg

/-- **Without left recursion all rules end on all windows.**  The induction is on the length of the
window, and for windows of one length on calls on the left. -/
theorem ends_of_leftFree {g : Grammar} (hg : S g)
    (hleft : ∀ h, g.Uses bindings h → ¬ Relation.TransGen (Grammar.LeftCalls bindings) h h) :
    ∀ (n : Nat) (rule : { h // g.Uses bindings h }) (w : Window), w.length = n →
      rule.1.Ends bindings w := by
  intro n
  induction n using Nat.strongRecOn with
  | ind n ihlength =>
    intro rule
    induction rule using (Grammar.wellFounded_leftCalls hleft).induction with
    | h rule ihcalls =>
      intro w hw
      refine h.settles_of_meets (h.plan_ends (h.uses hg rule.2) ?_ ?_)
      · intro g' w' hm hc hlt
        have hshorter : w'.length < n := hw ▸ hc.length_lt hlt
        exact ihlength w'.length hshorter ⟨g', rule.2.tail hm⟩ w' rfl
      · intro g' w' hcall he hstart
        have hmem : g.Uses bindings g' := rule.2.tail hcall.mentions
        have hle := he.stop_le
        -- Only a part that is shown less text can have got a shorter window here.
        by_cases hsame : w'.length = n
        · exact ihcalls ⟨g', hmem⟩ hcall w' hsame
        · have hshorter : w'.length < n := by
            rw [Window.length] at hw hsame ⊢
            omega
          exact ihlength w'.length hshorter ⟨g', hmem⟩ w' rfl

end Repertoire

/-- **Grammars without left recursion terminate.**  If no rule of a member leads back to itself by
calls on the left, then with enough fuel consuming ends the same way however much more there is, on
every window and with every table that members have filled from the same text. -/
theorem consume_terminates {env : Environment} {S : Grammar → Prop}
    (h : Repertoire env.bindings S) {buffer : Array Char} {s : Session}
    (hs : s.Reached env S buffer) {g : Grammar} (hg : S g)
    (hleft : ∀ rule, g.Uses env.bindings rule →
      ¬ Relation.TransGen (Grammar.LeftCalls env.bindings) rule rule)
    {w : Window} (hw : w.buffer = buffer) (parent : NodeBuilder) :
    ∃ r, r ≠ .error .outOfFuel ∧
      ∃ enough, ∀ fuel ≥ enough, ((g.consume env fuel w parent).exec s).1 = r := by
  obtain ⟨r, hr, hsettles⟩ := h.ends_of_leftFree hg hleft w.length ⟨g, .refl⟩ w rfl
  obtain ⟨enough, henough⟩ := h.exists_fuel_consume hg hw hsettles hr
  refine ⟨r.map (Reply.outcome parent), ?_, enough, fun fuel hfuel => ?_⟩
  · rcases r with e | reply
    · exact error_ne_outOfFuel hr
    · exact nofun
  · exact henough fuel hfuel parent s (h.valid_of_reached hs)

namespace Letters

/-- A number that calls on the left make smaller. -/
def rank : Grammar → Nat
  | .windowed .. => 4
  | .reference _ => 3
  | .memoized id _ => if id.number = 3 then 2 else 1
  | _ => 0

theorem rank_lt_of_leftCalls {g h : Grammar} (hg : g ∈ grammars) (hc : g.LeftCalls bindings h) :
    rank h < rank g := by
  have hmem := hg
  simp only [grammars, List.mem_cons, List.not_mem_nil, or_false] at hg
  cases hc with
  | part hs hpart =>
    rcases hg with rfl | rfl | rfl | rfl | rfl | rfl | rfl
    · simp only [list, Grammar.parts, Production.parts, List.mem_cons, List.not_mem_nil,
        or_false] at hpart
      rcases hpart with rfl | rfl <;> decide
    · cases hs
    · simp only [nil, Grammar.parts, Production.parts, List.mem_singleton] at hpart
      subst hpart
      decide
    · cases hpart
    · cases hpart
    · cases hpart
    · simp only [Grammar.parts, List.mem_singleton] at hpart
      subst hpart
      decide
  | @element id before after part factory hempty =>
    obtain ⟨rfl, hparts, rfl⟩ : id = ⟨1⟩ ∧
        before ++ h :: after = [.exact "a" none, .reference "list"] ∧ factory = none := by
      simpa [list, more, nil] using hg
    cases before with
    | nil =>
      obtain ⟨rfl, -⟩ := List.cons.inj hparts
      exact Nat.zero_lt_one
    | cons first before =>
      -- The letter in front of the reference takes a character.
      obtain ⟨rfl, -⟩ := List.cons.inj hparts
      have hletter : Grammar.exact "a" none ∈ grammars := by simp [grammars]
      have hnull := repertoire.nullable_of_canMatchEmpty hletter (hempty _ (.head _))
      exact absurd hnull.token_eq (by decide)
  | @target name _ ht =>
    obtain ⟨rfl, rfl⟩ := eq_of_target ht
    decide

theorem not_leftCalls_self {g : Grammar} (hg : g ∈ grammars) :
    ¬ Relation.TransGen (Grammar.LeftCalls bindings) g g := by
  have hless : ∀ h, Relation.TransGen (Grammar.LeftCalls bindings) g h →
      h ∈ grammars ∧ rank h < rank g := by
    intro h hc
    induction hc with
    | single hc => exact ⟨repertoire.closed _ _ hg hc.mentions, rank_lt_of_leftCalls hg hc⟩
    | tail _ hc ih =>
      obtain ⟨hmem, hlt⟩ := ih
      exact ⟨repertoire.closed _ _ hmem hc.mentions, (rank_lt_of_leftCalls hmem hc).trans hlt⟩
  exact fun hc => Nat.lt_irrefl _ (hless g hc).2

end Letters

/-- Lists of letters end, also after a list of one letter was looked for at the same place. -/
theorem letters_terminate :
    let w := Window.ofText "aab"
    let env : Environment := ⟨Letters.bindings, true⟩
    let s := ((Grammar.consume env 9 (.windowed 1 (.reference "list")) w .empty).exec {}).2
    Repertoire env.bindings (· ∈ Letters.grammars) ∧
      s.Reached env (· ∈ Letters.grammars) w.buffer ∧ Letters.list ∈ Letters.grammars ∧
      (∀ rule, Letters.list.Uses env.bindings rule →
        ¬ Relation.TransGen (Grammar.LeftCalls env.bindings) rule rule) ∧
      ∃ r, r ≠ .error .outOfFuel ∧
        ∃ enough, ∀ fuel ≥ enough,
          ((Letters.list.consume env fuel w .empty).exec s).1 = r := by
  intro w env s
  have hrep : Repertoire env.bindings (· ∈ Letters.grammars) := Letters.repertoire
  have hs : s.Reached env (· ∈ Letters.grammars) w.buffer :=
    .consumed 9 .empty (.fresh rfl) (by simp [Letters.grammars]) rfl
  have hg : Letters.list ∈ Letters.grammars := .head _
  have hleft : ∀ rule, Letters.list.Uses env.bindings rule →
      ¬ Relation.TransGen (Grammar.LeftCalls env.bindings) rule rule :=
    fun rule hu => Letters.not_leftCalls_self (hrep.uses hg hu)
  exact ⟨hrep, hs, hg, hleft, consume_terminates hrep hs hg hleft rfl .empty⟩

end Packrat
