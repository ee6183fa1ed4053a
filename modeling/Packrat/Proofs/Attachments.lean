import Packrat.Grammar.Build
import Packrat.Proofs.Likeness

/-! # Attachments never influence parsing

A factory gives a node its attachment, and nothing that a parser does depends on it.  Take two
grammars that are the same without their factories and identities (`Grammar.bare`), in any way
that factories may be put on their rules: on the same window they answer the same rest or the same
error, and trees that are the same without their attachments (`attachments_ignored`).  Only a
factory that breaks off ends the run of its own grammar.

Attaching to a parser makes a copy of it with another factory and another identity, and nothing else
is lost or changed on the way (`Grammar.Attached.bare_eq`).  A factory that was attached before
leaves no trace (`Grammar.Attached.plan_eq`).
-/
namespace Packrat

/-! ## Grammars without factories -/

namespace Grammar

mutual

/-- The grammar without factories and identities. -/
def bare : Grammar → Grammar
  | exact token _ => exact token none
  | charRun min max cls _ => charRun min max cls none
  | endOfInput => endOfInput
  | skip body => skip body.bare
  | require body => require body.bare
  | group name body => group name body.bare
  | replace translator body => replace translator body.bare
  | reference name => reference name
  | memoized _ production => memoized ⟨0⟩ (bareOf production)
  | counted name body => counted name body.bare
  | windowed size body => windowed size body.bare
  | once flag first later => once flag first.bare later.bare
  | fail error => fail error

/-- The production without factories and identities. -/
def bareOf : Production → Production
  | .sequence parts _ => .sequence (bareAll parts) none
  | .choice branches _ => .choice (bareAll branches) none
  | .repetition min max body _ => .repetition min max body.bare none
  | .lift body _ => .lift body.bare none
  | .join joint body _ => .join joint body.bare none
  | .preserve body _ => .preserve body.bare none

/-- The grammars of a list without factories and identities. -/
def bareAll : List Grammar → List Grammar
  | [] => []
  | g :: gs => g.bare :: bareAll gs

end

theorem bareAll_eq_map (gs : List Grammar) : bareAll gs = gs.map bare := by
  induction gs with
  | nil => rfl
  | cons g gs ih => rw [bareAll, ih, List.map_cons]

/-- Another factory is no difference. -/
theorem bareOf_withFactory (factory : Factory) (production : Production) :
    bareOf (production.withFactory factory) = bareOf production := by
  cases production <;> rfl

end Grammar

/-- The last factory counts. -/
theorem Production.withFactory_withFactory (factory factory' : Factory) (production : Production) :
    (production.withFactory factory).withFactory factory' = production.withFactory factory' := by
  cases production <;> rfl

/-- The bindings without factories and identities. -/
def Bindings.bare (bindings : Bindings) : Bindings :=
  bindings.map fun binding => (binding.1, binding.2.bare)

theorem Bindings.target?_bare (bindings : Bindings) (name : String) :
    bindings.bare.target? name = (bindings.target? name).map Grammar.bare := by
  induction bindings with
  | nil => rfl
  | cons binding bindings ih =>
    rw [Bindings.bare, List.map_cons, Bindings.target?, Bindings.target?, List.lookup_cons,
      List.lookup_cons]
    split
    · rfl
    · exact ih

section Bare

variable {bindings bindings' : Bindings}

/-- References stand for grammars that are the same without factories. -/
theorem Bindings.rel_target?_of_bare_eq (h : bindings.bare = bindings'.bare) (name : String) :
    Option.Rel (fun a a' => a.bare = a'.bare) (bindings.target? name) (bindings'.target? name) := by
  have htargets : (bindings.target? name).map Grammar.bare =
      (bindings'.target? name).map Grammar.bare := by
    rw [← Bindings.target?_bare, ← Bindings.target?_bare, h]
  generalize bindings.target? name = target at htargets ⊢
  generalize bindings'.target? name = target' at htargets ⊢
  cases target with
  | none =>
    cases target' with
    | none => exact .none
    | some _ => cases htargets
  | some _ =>
    cases target' with
    | none => cases htargets
    | some _ => exact .some (Option.some.inj htargets)

theorem Grammar.forall₂_of_bareAll_eq {parts parts' : List Grammar}
    (h : bareAll parts = bareAll parts') :
    List.Forall₂ (fun a a' => a.bare = a'.bare) parts parts' := by
  rw [bareAll_eq_map, bareAll_eq_map, ← List.forall₂_eq_eq_eq, List.forall₂_map_left_iff,
    List.forall₂_map_right_iff] at h
  exact h

theorem Production.counterparts_of_bare_eq {production production' : Production}
    (h : Grammar.bareOf production = Grammar.bareOf production') :
    production.Counterparts (fun a a' => a.bare = a'.bare) production' := by
  cases production with
  | sequence parts factory =>
    cases production' with
    | sequence parts' factory' =>
      simp only [Grammar.bareOf, Production.sequence.injEq, and_true] at h
      exact .sequence factory factory' (Grammar.forall₂_of_bareAll_eq h)
    | _ => simp [Grammar.bareOf] at h
  | choice branches factory =>
    cases production' with
    | choice branches' factory' =>
      simp only [Grammar.bareOf, Production.choice.injEq, and_true] at h
      exact .choice factory factory' (Grammar.forall₂_of_bareAll_eq h)
    | _ => simp [Grammar.bareOf] at h
  | repetition min max body factory =>
    cases production' with
    | repetition min' max' body' factory' =>
      simp only [Grammar.bareOf, Production.repetition.injEq, and_true] at h
      obtain ⟨rfl, rfl, hbody⟩ := h
      exact .repetition min max factory factory' hbody
    | _ => simp [Grammar.bareOf] at h
  | lift body factory =>
    cases production' with
    | lift body' factory' =>
      simp only [Grammar.bareOf, Production.lift.injEq, and_true] at h
      exact .lift factory factory' h
    | _ => simp [Grammar.bareOf] at h
  | join joint body factory =>
    cases production' with
    | join joint' body' factory' =>
      simp only [Grammar.bareOf, Production.join.injEq, and_true] at h
      obtain ⟨rfl, hbody⟩ := h
      exact .join joint factory factory' hbody
    | _ => simp [Grammar.bareOf] at h
  | preserve body factory =>
    cases production' with
    | preserve body' factory' =>
      simp only [Grammar.bareOf, Production.preserve.injEq, and_true] at h
      exact .preserve factory factory' h
    | _ => simp [Grammar.bareOf] at h

/-- **Combinators that are the same without factories are of one kind.** -/
theorem Grammar.counterparts_of_bare_eq {g g' : Grammar} (hg : g.isCombinator)
    (hbindings : bindings.bare = bindings'.bare) (h : g.bare = g'.bare) :
    g.Counterparts bindings bindings' (fun a a' => a.bare = a'.bare) g' := by
  cases g with
  | exact token factory =>
    cases g' with
    | exact token' factory' =>
      simp only [bare, exact.injEq, and_true] at h
      exact h ▸ .exact token factory factory'
    | _ => simp [bare] at h
  | charRun min max cls factory =>
    cases g' with
    | charRun min' max' cls' factory' =>
      simp only [bare, charRun.injEq, and_true] at h
      obtain ⟨rfl, rfl, rfl⟩ := h
      exact .charRun min max cls factory factory'
    | _ => simp [bare] at h
  | endOfInput =>
    cases g' with
    | endOfInput => exact .endOfInput
    | _ => simp [bare] at h
  | skip body =>
    cases g' with
    | skip body' => exact .skip (by simpa [bare] using h)
    | _ => simp [bare] at h
  | require body =>
    cases g' with
    | require body' => exact .require (by simpa [bare] using h)
    | _ => simp [bare] at h
  | group name body =>
    cases g' with
    | group name' body' =>
      simp only [bare, group.injEq] at h
      obtain ⟨rfl, hbody⟩ := h
      exact .group name hbody
    | _ => simp [bare] at h
  | replace translator body =>
    cases g' with
    | replace translator' body' =>
      simp only [bare, replace.injEq] at h
      obtain ⟨rfl, hbody⟩ := h
      exact .replace translator hbody
    | _ => simp [bare] at h
  | reference name =>
    cases g' with
    | reference name' =>
      simp only [bare, reference.injEq] at h
      exact h ▸ .reference name (Bindings.rel_target?_of_bare_eq hbindings name)
    | _ => simp [bare] at h
  | memoized id production =>
    cases g' with
    | memoized id' production' =>
      simp only [bare, memoized.injEq, true_and] at h
      exact .memoized id id' (Production.counterparts_of_bare_eq h)
    | _ => simp [bare] at h
  | windowed size body =>
    cases g' with
    | windowed size' body' =>
      simp only [bare, windowed.injEq] at h
      obtain ⟨rfl, hbody⟩ := h
      exact .windowed size hbody
    | _ => simp [bare] at h
  | counted name body => cases hg
  | once flag first later => cases hg
  | fail error => cases hg

end Bare

/-! ## Attaching -/

namespace Grammar

/-- `g.Attached f h`: attaching `f` to the parser `g` can build `h`. -/
def Attached (f : Factory) (g h : Grammar) : Prop :=
  ∃ supply supply', (attach? f g).run.run supply = (.ok (some h), supply')

/-- `h` is a copy of the parser `g` with the factory `f`, which has an identity of its own if the
parser has one. -/
inductive CopyWith (f : Factory) : Grammar → Grammar → Prop
  | exact (token : String) (factory : Option Factory) :
      CopyWith f (.exact token factory) (.exact token (some f))
  | charRun (min : Nat) (max : Option Nat) (cls : CharClass) (factory : Option Factory) :
      CopyWith f (.charRun min max cls factory) (.charRun min max cls (some f))
  | memoized (id id' : ConsumerId) (production : Production) :
      CopyWith f (.memoized id production) (.memoized id' (production.withFactory f))

namespace Attached

variable {f f' : Factory} {g g' h h' : Grammar}

theorem copyWith (hattached : g.Attached f h) : g.CopyWith f h := by
  obtain ⟨supply, supply', hrun⟩ := hattached
  cases g with
  | exact token factory =>
    cases hrun
    exact .exact token factory
  | charRun min max cls factory =>
    cases hrun
    exact .charRun min max cls factory
  | memoized id production =>
    cases hrun
    exact .memoized id _ production
  | _ => cases hrun

/-- Attaching changes nothing but the factory and the identity. -/
theorem bare_eq (hattached : g.Attached f h) : h.bare = g.bare := by
  cases hattached.copyWith with
  | exact token factory => rfl
  | charRun min max cls factory => rfl
  | memoized id id' production => rw [bare, bare, bareOf_withFactory]

/-- The last factory counts: a parser asks and answers the same whether or not another factory was
attached before. -/
theorem plan_eq (hfirst : g.Attached f g') (hsecond : g'.Attached f' h) (honly : g.Attached f' h')
    (bindings : Bindings) (w : Window) : h.plan bindings w = h'.plan bindings w := by
  cases hfirst.copyWith with
  | exact token factory =>
    cases hsecond.copyWith
    cases honly.copyWith
    rfl
  | charRun min max cls factory =>
    cases hsecond.copyWith
    cases honly.copyWith
    rfl
  | memoized id id' production =>
    cases hsecond.copyWith
    cases honly.copyWith
    rw [plan, plan, Production.withFactory_withFactory]

end Attached

/-- The halts that a factory of one of the rules of `g` causes. -/
def BreaksOff (bindings : Bindings) (g : Grammar) (halt : Halt) : Prop :=
  halt ≠ .outOfFuel ∧ g.MayHalt bindings halt

end Grammar

/-! ## Two grammars that are the same without factories -/

/-- The rules of two grammars on one text, where nothing is compared of attachments and each factory
may break off the run of its own grammar. -/
def Likeness.ofBare (bindings bindings' : Bindings) (g g' : Grammar) (buffer : Array Char) :
    Likeness where
  pairs a a' := a.bare = a'.bare ∧ g.Uses bindings a ∧ g'.Uses bindings' a'
  part := buffer
  whole := buffer
  offset := 0
  keep _ := none
  left := g.BreaksOff bindings
  right := g'.BreaksOff bindings'
  fits := by omega
  extract_eq := by simp
  positions := .inl rfl

section Comparing

variable {bindings bindings' : Bindings} {g g' : Grammar} {buffer : Array Char}

/-- The runs of grammars that are the same without factories are in step. -/
theorem Likeness.ofBare_kept {S : Grammar → Prop} (h : Repertoire bindings S) (hg : S g)
    (hbindings : bindings.bare = bindings'.bare) :
    (Likeness.ofBare bindings bindings' g g' buffer).coupling.Kept bindings bindings' := by
  refine Likeness.kept ?_
  rintro a a' ⟨hbare, huses, huses'⟩
  constructor
  · have hcombinator := h.isCombinator a (h.uses hg huses)
    exact (Grammar.counterparts_of_bare_eq hcombinator hbindings hbare).imp
      fun b b' hb hb' hpair => ⟨hpair, huses.tail hb, huses'.tail hb'⟩
  · refine .inr ⟨fun _ _ => rfl, fun f text nodes v hf hcreate => ?_, ?_⟩
    · exact ⟨nofun, .brokenOff huses hf hcreate⟩
    · exact fun f text nodes v hf hcreate => ⟨nofun, .brokenOff huses' hf hcreate⟩

/-- Windows alike on one text are one window. -/
theorem Likeness.eq_of_ofBare_windows {w w' : Window}
    (h : (Likeness.ofBare bindings bindings' g g' buffer).Windows w w') : w' = w := by
  obtain ⟨buffer, start, stop, _, _⟩ := w
  obtain ⟨buffer', start', stop', _, _⟩ := w'
  obtain ⟨rfl, rfl, rfl, rfl⟩ := h
  rfl

/-- Nodes alike are the same without attachments. -/
theorem Likeness.bare_eq_of_ofBare_nodes {nodes nodes' : List Node}
    (h : (Likeness.ofBare bindings bindings' g g' buffer).Nodes nodes nodes') :
    nodes.map Node.bare = nodes'.map Node.bare := by
  have hspan : Option.map (Span.shift 0) = id := by
    funext span
    cases span <;> rfl
  have hnear : (Likeness.ofBare bindings bindings' g g' buffer).near = Node.bare := by
    funext node
    exact congrArg (Node.relabel · _ node) hspan
  rw [Likeness.Nodes, hnear] at h
  exact h

end Comparing

/-- The outcomes have the same rest or the same error, and what was appended to the parents is the
same without attachments. -/
structure Outcome.SameButAttachments (parent parent' : NodeBuilder) (o o' : Outcome) : Prop where
  result_eq : o.result = o'.result
  nodes_eq : ∃ nodes nodes', o.parent = parent.extend nodes ∧ o'.parent = parent'.extend nodes' ∧
    nodes.map Node.bare = nodes'.map Node.bare

theorem Likeness.sameButAttachments_of_replies {bindings bindings' : Bindings} {g g' : Grammar}
    {buffer : Array Char} {w : Window} {reply reply' : Reply}
    (h : (Likeness.ofBare bindings bindings' g g' buffer).Replies w reply reply')
    (parent parent' : NodeBuilder) :
    (Reply.outcome parent reply).SameButAttachments parent parent'
      (Reply.outcome parent' reply') := by
  rcases reply with e | ⟨rest, nodes⟩ <;> rcases reply' with e' | ⟨rest', nodes'⟩
  · obtain rfl : e' = e := (Likeness.results_error.mp h).trans e.shift_zero
    exact ⟨rfl, [], [], rfl, rfl, rfl⟩
  · cases h
  · cases h
  · obtain ⟨-, hrest, hnodes⟩ := h
    obtain rfl := Likeness.eq_of_ofBare_windows hrest
    exact ⟨rfl, nodes, nodes', rfl, rfl, Likeness.bare_eq_of_ofBare_nodes hnodes⟩

/-- **Attachments never influence parsing.**  Let two grammars, and what their references stand for,
be the same without factories, and let members of their repertoires have filled the two memo tables
from the text of `w`.  Whatever the first one answers for `w`, the second one answers the same but
for attachments, unless one of them is broken off by the factory of one of its rules.

Attaching builds a grammar that is the same without its factory; and attaching twice in a row
answers what attaching the second factory answers, attachments included. -/
theorem attachments_ignored {env env' : Environment} {S S' : Grammar → Prop}
    (h : Repertoire env.bindings S) (h' : Repertoire env'.bindings S')
    (hbindings : env.bindings.bare = env'.bindings.bare) {g g' : Grammar} (hg : S g) (hg' : S' g')
    (hbare : g.bare = g'.bare) {w : Window} {s s' : Session} (hs : s.Reached env S w.buffer)
    (hs' : s'.Reached env' S' w.buffer) (parent parent' : NodeBuilder) :
    (∀ r, g.Answers env w parent s r →
      Halted (g.BreaksOff env.bindings) r ∨
        ∃ r', g'.Answers env' w parent' s' r' ∧
          (Halted (g'.BreaksOff env'.bindings) r' ∨
            Agree (Outcome.SameButAttachments parent parent') r r')) ∧
      (∀ (f : Factory) (a b : Grammar), a.Attached f b → b.bare = a.bare) ∧
      ∀ (f f' : Factory) (a b c d : Grammar),
        a.Attached f b → b.Attached f' c → a.Attached f' d → S c → S d →
        ∀ r, c.Answers env w parent s r ↔ d.Answers env w parent s r := by
  refine ⟨fun r hr => ?_, fun f a b hab => hab.bare_eq, ?_⟩
  · have hkept : (Likeness.ofBare env.bindings env'.bindings g g' w.buffer).coupling.Kept
        env.bindings env'.bindings := Likeness.ofBare_kept h hg hbindings
    have hfuel : ¬ g'.BreaksOff env'.bindings .outOfFuel := fun hbreaks => hbreaks.1 rfl
    have hasks :
        (Likeness.ofBare env.bindings env'.bindings g g' w.buffer).coupling.asks g w g' w :=
      ⟨⟨hbare, .refl, .refl⟩, rfl, rfl, rfl, rfl⟩
    obtain hl | ⟨r', hr', hcase⟩ :=
      hkept.answers hfuel h h' hg hg' hasks hs hs' parent parent' hr
    · exact .inl hl
    · refine .inr ⟨r', hr', hcase.imp_right fun hagree => hagree.mono ?_⟩
      rintro o o' ⟨reply, reply', hreplies, rfl, rfl⟩
      exact Likeness.sameButAttachments_of_replies hreplies parent parent'
  · intro f f' a b c d hab hbc had hc hd r
    have hv := h.valid_of_reached hs
    rw [h.answers_iff_settles hc rfl hv, h.answers_iff_settles hd rfl hv,
      hab.plan_eq hbc had env.bindings w]

/-- A letter and some more that are lifted and attached to anew, with a factory attached on top of
another one: the answer, out of a memo table, is that of the grammar without any factory. -/
theorem tagged_attachments_ignored :
    let f := Factory.constant (.ofPayload (.int64 1))
    let f' := Factory.constant (.ofPayload (.text "tag"))
    let parts (factory : Option Factory) : List Grammar :=
      [.exact "a" factory,
        .memoized ⟨6⟩ (.lift (.memoized ⟨7⟩ (.repetition 1 none (.exact "b" none) none)) factory)]
    let tagged (id : ConsumerId) (factory : Option Factory) : Grammar :=
      .memoized id (.sequence (parts (some f)) factory)
    let plain : Grammar := .memoized ⟨1⟩ (.sequence (parts none) none)
    let both : Grammar :=
      .memoized ⟨5⟩ (.sequence [tagged ⟨3⟩ (some f'), tagged ⟨4⟩ (some f')] none)
    let env : Environment := ⟨[], true⟩
    let w := Window.ofText "ab"
    Repertoire [] (· ∈ both.subgrammars) ∧ Repertoire [] (· ∈ plain.subgrammars) ∧
      (tagged ⟨1⟩ none).Attached f (tagged ⟨2⟩ (some f)) ∧
      (tagged ⟨2⟩ (some f)).Attached f' (tagged ⟨3⟩ (some f')) ∧
      (tagged ⟨1⟩ none).Attached f' (tagged ⟨4⟩ (some f')) ∧
      (∃ rest after o',
        plain.Answers ⟨[], false⟩ w .empty {} (.ok ⟨.ok rest, after⟩) ∧ rest.start = 2 ∧
          (tagged ⟨4⟩ (some f')).Answers env w .empty {} (.ok o') ∧
          Outcome.SameButAttachments .empty .empty ⟨.ok rest, after⟩ o') ∧
      ∀ r, (tagged ⟨3⟩ (some f')).Answers env w .empty {} r ↔
        (tagged ⟨4⟩ (some f')).Answers env w .empty {} r := by
  intro f f' parts tagged plain both env w
  have hboth : Repertoire env.bindings (· ∈ both.subgrammars) := by
    refine .of_subgrammars ?_ ?_
    · simp [both, tagged, parts, Grammar.subgrammars, Grammar.subgrammarsOf,
        Grammar.subgrammarsAll, Grammar.isCombinator]
    · intro id production production' hp hp'
      simp only [both, tagged, parts, Grammar.subgrammars, Grammar.subgrammarsOf,
        Grammar.subgrammarsAll, List.mem_cons, List.mem_append, List.not_mem_nil,
        Grammar.memoized.injEq, reduceCtorEq, or_false, false_or] at hp hp'
      rcases hp with ⟨rfl, rfl⟩ | (⟨rfl, rfl⟩ | ⟨rfl, rfl⟩ | ⟨rfl, rfl⟩) | ⟨rfl, rfl⟩ |
        ⟨rfl, rfl⟩ | ⟨rfl, rfl⟩
      all_goals exact Eq.symm (by simpa using hp')
  have hplain : Repertoire (Environment.mk [] false).bindings (· ∈ plain.subgrammars) :=
    .of_nodup (by decide) (by decide)
  have hthird : tagged ⟨3⟩ (some f') ∈ both.subgrammars :=
    Grammar.mem_subgrammars_of_part both (Grammar.self_mem_subgrammars both) (.head _)
  have hfourth : tagged ⟨4⟩ (some f') ∈ both.subgrammars :=
    Grammar.mem_subgrammars_of_part both (Grammar.self_mem_subgrammars both) (.tail _ (.head _))
  have hconstant : ∀ rule ∈ both.subgrammars, ∀ factory, rule.factory? = some factory →
      ∀ text nodes v, factory.create text nodes ≠ .error v := by
    simp [both, tagged, parts, Grammar.subgrammars, Grammar.subgrammarsOf, Grammar.subgrammarsAll,
      Grammar.factory?, Production.factory?, f, f', Factory.constant]
  have hnever : ∀ r : Except Halt Outcome,
      ¬ Halted ((tagged ⟨4⟩ (some f')).BreaksOff env.bindings) r := by
    rintro (halt | o) hhalted
    · obtain ⟨hne, hmay⟩ := hhalted
      cases hmay with
      | outOfFuel => exact hne rfl
      | brokenOff huses hf hcreate =>
        exact hconstant _ (hboth.uses hfourth huses) _ hf _ _ _ hcreate
    · exact hhalted
  have hfirst : (tagged ⟨1⟩ none).Attached f (tagged ⟨2⟩ (some f)) := ⟨⟨2, 0⟩, _, rfl⟩
  have hsecond : (tagged ⟨2⟩ (some f)).Attached f' (tagged ⟨3⟩ (some f')) := ⟨⟨3, 0⟩, _, rfl⟩
  have honly : (tagged ⟨1⟩ none).Attached f' (tagged ⟨4⟩ (some f')) := ⟨⟨4, 0⟩, _, rfl⟩
  obtain ⟨rest, after, s', hexec, hrest⟩ : ∃ rest after s',
      (plain.consume ⟨[], false⟩ 5 w .empty).exec {} = (.ok ⟨.ok rest, after⟩, s') ∧
        rest.start = 2 := ⟨_, _, _, rfl, rfl⟩
  have hanswers : plain.Answers ⟨[], false⟩ w .empty {} (.ok ⟨.ok rest, after⟩) :=
    ⟨ok_ne_outOfFuel _, 5, congrArg Prod.fst hexec⟩
  have hs : ({} : Session).Reached ⟨[], false⟩ (· ∈ plain.subgrammars) w.buffer := .fresh rfl
  have hs' : ({} : Session).Reached env (· ∈ both.subgrammars) w.buffer := .fresh rfl
  have hself : plain ∈ plain.subgrammars := Grammar.self_mem_subgrammars plain
  obtain ⟨hsame, -, -⟩ :=
    attachments_ignored hplain hboth rfl hself hfourth rfl hs hs' .empty .empty
  obtain ⟨-, -, htwice⟩ :=
    attachments_ignored hboth hplain rfl hfourth hself rfl hs' hs .empty .empty
  obtain ⟨r', hr', hcase⟩ := (hsame _ hanswers).resolve_left not_halted_ok
  have hagree := hcase.resolve_left (hnever r')
  rcases r' with halt | o'
  · cases hagree
  · exact ⟨hboth, hplain, hfirst, hsecond, honly, ⟨rest, after, o', hanswers, hrest, hr', hagree⟩,
      htwice f f' _ _ _ _ hfirst hsecond honly hthird hfourth⟩

end Packrat
