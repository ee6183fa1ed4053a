import Packrat.Grammar.Build
import Packrat.Proofs.JoinedValues
import Packrat.Proofs.MemoTransparency

/-! # No text is lost or duplicated

A token and a run of characters make a node whose value is the text they take.  Sequences, choices
and repetitions put such nodes under one without a value; lifting takes that one away again, and a
join without a joint makes one value of theirs.  Grammars that are built of these alone
(`Grammar.Verbatim`), with lookaheads and frames anywhere among them, keep all of the text that they
take (`text_kept`): the values of the nodes they append, node by node and each node before its
children, are the text that was consumed.

Branches that fail and a last repetition that stops half way leave no nodes, so that what a
production gathers is the text between its window and the rest (`Production.plan_gathers`).  What
remains is how a production hands its nodes over: a node whose children are handed on in its place
must not have a value of its own.
-/
namespace Packrat

/-! ## Texts of forests -/

namespace Node

/-- Nothing is told apart by attachments. -/
theorem values_reattached {m n : Node} (h : m.Reattached n) : n.values = m.values := by
  obtain ⟨span, value, attachment, children⟩ := m
  obtain ⟨span', value', attachment', children'⟩ := n
  obtain ⟨-, rfl, rfl⟩ := h
  rw [values, values]

theorem valuesAll_reattached {nodes out : List Node} (h : List.Forall₂ Reattached nodes out) :
    valuesAll out = valuesAll nodes := by
  induction h with
  | nil => rfl
  | cons hfirst _ ih => rw [valuesAll, valuesAll, values_reattached hfirst, ih]

end Node

/-! ## Grammars that keep their text -/

/-- Whether the production puts the nodes of its parts under one without a value. -/
def Production.folds : Production → Bool
  | sequence .. => true
  | choice .. => true
  | repetition .. => true
  | _ => false

namespace Grammar

/-- **Grammars that keep their text.**  Every factory may make attachments.  A lookahead makes no
nodes, and only what folds its parts under one node may be lifted. -/
inductive Verbatim : Grammar → Prop
  | exact (token : String) (factory : Option Factory) : Verbatim (.exact token factory)
  | charRun (min : Nat) (max : Option Nat) (cls : CharClass) (factory : Option Factory) :
      Verbatim (.charRun min max cls factory)
  | endOfInput : Verbatim .endOfInput
  | require {body : Grammar} : body.Verbatim → Verbatim (.require body)
  | group (name : String) {body : Grammar} : body.Verbatim → Verbatim (.group name body)
  | reference (name : String) : Verbatim (.reference name)
  | peek (id : ConsumerId) {body : Grammar} (factory : Option Factory) :
      body.Verbatim → Verbatim (.skip (.memoized id (.preserve body factory)))
  | folded (id : ConsumerId) {production : Production} :
      production.folds = true → (∀ part ∈ production.parts, part.Verbatim) →
      Verbatim (.memoized id production)
  | lifted (id inner : ConsumerId) {production : Production} (factory : Option Factory) :
      production.folds = true → (∀ part ∈ production.parts, part.Verbatim) →
      Verbatim (.memoized id (.lift (.memoized inner production) factory))
  | joined (id : ConsumerId) {body : Grammar} (factory : Option Factory) :
      body.Verbatim → Verbatim (.memoized id (.join "" body factory))

end Grammar

/-! ## Grammars as they are built -/

theorem Production.folds_withFactory (factory : Factory) (production : Production) :
    (production.withFactory factory).folds = production.folds := by
  cases production <;> rfl

/-- Whatever is drawn from the supply, what is built is as `p` says. -/
def Build.Makes {α : Type} (p : α → Prop) (x : Build α) : Prop :=
  ∀ supply a supply', x.run.run supply = (.ok a, supply') → p a

namespace Build

variable {α β : Type} {p : α → Prop} {q : β → Prop}

theorem makes_pure {a : α} (h : p a) : Makes p (pure a) := by
  intro supply b supply' hrun
  obtain ⟨hb, -⟩ := Prod.mk.inj hrun
  exact Except.ok.inj hb ▸ h

theorem makes_throw (v : Violation) : Makes p (throw v) := by
  intro supply b supply' hrun
  obtain ⟨hb, -⟩ := Prod.mk.inj hrun
  cases hb

theorem Makes.mono {p' : α → Prop} {x : Build α} (hx : Makes p x) (hp : ∀ a, p a → p' a) :
    Makes p' x :=
  fun supply a supply' hrun => hp a (hx supply a supply' hrun)

theorem Makes.bind {x : Build α} {f : α → Build β} (hx : Makes p x)
    (hf : ∀ a, p a → Makes q (f a)) : Makes q (x >>= f) := by
  intro supply b supply' hrun
  rw [run_bind] at hrun
  rcases hexec : x.run.run supply with ⟨v | a, supply₁⟩
  · rw [hexec] at hrun
    cases hrun
  · rw [hexec] at hrun
    exact hf a (hx supply a supply₁ hexec) supply₁ b supply' hrun

end Build

namespace Grammar

/-- The grammar folds parts that keep their text. -/
def Folded (g : Grammar) : Prop :=
  ∃ id production, g = .memoized id production ∧ production.folds = true ∧
    ∀ part ∈ production.parts, part.Verbatim

theorem Folded.verbatim {g : Grammar} (h : g.Folded) : g.Verbatim := by
  obtain ⟨id, production, rfl, hfolds, hparts⟩ := h
  exact .folded id hfolds hparts

theorem Folded.lifted {g : Grammar} (h : g.Folded) (id : ConsumerId) (factory : Option Factory) :
    (memoized id (.lift g factory)).Verbatim := by
  obtain ⟨inner, production, rfl, hfolds, hparts⟩ := h
  exact .lifted id inner factory hfolds hparts

section Builders

variable {p : Grammar → Prop} {parts : List Grammar} {body item delimiter : Grammar}

theorem memoize_makes {production : Production} (h : ∀ id, p (.memoized id production)) :
    (memoize production).Makes p := by
  have hid : ConsumerId.fresh.Makes fun _ => True := fun _ _ _ _ => trivial
  exact hid.bind fun id _ => Build.makes_pure (h id)

theorem sequence_makes (hparts : ∀ part ∈ parts, part.Verbatim) : (sequence parts).Makes Folded :=
  memoize_makes fun id => ⟨id, .sequence parts none, rfl, rfl, hparts⟩

theorem choice_makes (hparts : ∀ part ∈ parts, part.Verbatim) : (choice parts).Makes Folded := by
  rw [choice]
  split
  · exact Build.makes_throw _
  · exact memoize_makes fun id => ⟨id, .choice parts none, rfl, rfl, hparts⟩

theorem repetition_makes (hbody : body.Verbatim) (min : Nat) (max : Option Nat) :
    (repetition min max body).Makes Folded := by
  refine memoize_makes fun id => ⟨id, .repetition min max body none, rfl, rfl, fun part hpart => ?_⟩
  rw [List.mem_singleton.mp hpart]
  exact hbody

theorem lifted_makes {x : Build Grammar} (hx : x.Makes Folded) :
    (x >>= lifted).Makes Verbatim :=
  hx.bind fun _ hg => memoize_makes fun id => hg.lifted id none

theorem optional_makes (hbody : body.Verbatim) : (optional body).Makes Folded :=
  repetition_makes hbody 0 (some 1)

theorem liftedSequence_makes (hparts : ∀ part ∈ parts, part.Verbatim) :
    (liftedSequence parts).Makes Verbatim :=
  lifted_makes (sequence_makes hparts)

theorem liftedChoice_makes (hparts : ∀ part ∈ parts, part.Verbatim) :
    (liftedChoice parts).Makes Verbatim :=
  lifted_makes (choice_makes hparts)

theorem liftedRepetition_makes (hbody : body.Verbatim) (min : Nat) (max : Option Nat) :
    (liftedRepetition min max body).Makes Verbatim :=
  lifted_makes (repetition_makes hbody min max)

theorem liftedOptional_makes (hbody : body.Verbatim) : (liftedOptional body).Makes Verbatim :=
  lifted_makes (optional_makes hbody)

theorem oneOf_makes (tokens : List String) : (oneOf tokens).Makes Verbatim := by
  refine liftedChoice_makes fun part hpart => ?_
  obtain ⟨token, -, rfl⟩ := List.mem_map.mp hpart
  exact .exact token none

theorem joined_makes (hbody : body.Verbatim) : (joined body).Makes Verbatim :=
  memoize_makes fun id => .joined id none hbody

theorem peek_makes (hbody : body.Verbatim) : (peek body).Makes Verbatim := by
  have hpreserved : (preserved body).Makes fun g => (Grammar.skip g).Verbatim :=
    memoize_makes fun id => .peek id none hbody
  exact hpreserved.bind fun _ hg => Build.makes_pure hg

theorem terminal_makes (hbody : body.Verbatim) : (terminal body).Makes Verbatim := by
  refine liftedSequence_makes fun part hpart => ?_
  simp only [List.mem_cons, List.not_mem_nil, or_false] at hpart
  rcases hpart with rfl | rfl
  · exact hbody
  · exact .endOfInput

theorem delimited_makes (min : Nat) (hitem : item.Verbatim) (hdelimiter : delimiter.Verbatim) :
    (delimited min item delimiter).Makes Verbatim := by
  have hpair : ∀ {g h : Grammar}, g.Verbatim → h.Verbatim → ∀ part ∈ [g, h], part.Verbatim := by
    intro g h hg hh part hpart
    simp only [List.mem_cons, List.not_mem_nil, or_false] at hpart
    rcases hpart with rfl | rfl
    · exact hg
    · exact hh
  refine (liftedSequence_makes (hpair hdelimiter hitem)).bind fun tail htail => ?_
  cases min with
  | zero =>
    refine (liftedRepetition_makes htail 0 none).bind fun more hmore => ?_
    refine (liftedSequence_makes (hpair hitem hmore)).bind fun list hlist => ?_
    refine (liftedOptional_makes hlist).bind fun part hpart => ?_
    refine (sequence_makes fun other hother => ?_).mono fun _ hg => hg.verbatim
    rw [List.mem_singleton.mp hother]
    exact hpart
  | succ min =>
    refine (liftedRepetition_makes htail min none).bind fun more hmore => ?_
    exact (sequence_makes (hpair hitem hmore)).mono fun _ hg => hg.verbatim

/-- Another factory changes nothing but attachments. -/
theorem attach_makes (factory : Factory) {g : Grammar} (hg : g.Verbatim) :
    (attach? factory g).Makes fun attached => ∀ h, attached = some h → h.Verbatim := by
  have hmemoized : ∀ production : Production, (∀ id, (memoized id production).Verbatim) →
      (do
        let h ← memoize production
        pure (some h) : Build (Option Grammar)).Makes
        fun attached => ∀ h, attached = some h → h.Verbatim := by
    intro production hall
    refine (memoize_makes hall).bind fun h hh => Build.makes_pure fun h' heq => ?_
    exact Option.some.inj heq ▸ hh
  cases hg with
  | exact token _ =>
    refine Build.makes_pure fun h heq => ?_
    exact Option.some.inj heq ▸ .exact token (some factory)
  | charRun min max cls _ =>
    refine Build.makes_pure fun h heq => ?_
    exact Option.some.inj heq ▸ .charRun min max cls (some factory)
  | @folded _ production hfolds hparts =>
    refine hmemoized _ fun id => .folded id ?_ ?_
    · rw [Production.folds_withFactory]
      exact hfolds
    · rw [Production.parts_withFactory]
      exact hparts
  | lifted _ inner _ hfolds hparts =>
    exact hmemoized _ fun id => .lifted id inner (some factory) hfolds hparts
  | joined _ _ hbody => exact hmemoized _ fun id => .joined id (some factory) hbody
  | _ => exact Build.makes_pure nofun

end Builders

end Grammar

/-! ## What is kept -/

namespace Grammar

/-- Whether the grammar folds its nodes under one node without a value. -/
def folds : Grammar → Bool
  | memoized _ production => production.folds
  | _ => false

/-- Whether the grammar makes one node with the joined values. -/
def joins : Grammar → Bool
  | memoized _ (.join ..) => true
  | _ => false

/-- The memoizing consumer within a lookahead, which makes a node but takes nothing. -/
def IsLookahead (g : Grammar) : Prop :=
  ∃ id body factory, g = .memoized id (.preserve body factory) ∧ body.Verbatim

end Grammar

/-- The values of the nodes are the text from `w` to `rest`. -/
structure KeepsText (w rest : Window) (nodes : List Node) : Prop where
  continues : w.Continues rest
  text_eq : String.join (Node.valuesAll nodes) = w.taken rest

theorem gathers_keepsText : Gathers KeepsText fun _ _ => True where
  nil w := ⟨.refl w, by rw [Node.valuesAll, String.join_nil, Window.taken_self]⟩
  append h h' := by
    refine ⟨h.continues.trans h'.continues, ?_⟩
    rw [Node.valuesAll_append, String.join_append, h.text_eq, h'.text_eq,
      h.continues.taken_append h'.continues]
  continues h := h.continues
  later _ _ := trivial
  mismatch _ _ := trivial
  noAlternative _ := trivial
  context _ _ := trivial

/-- What a grammar that keeps its text leaves: the text, in a form that depends on the grammar. -/
structure Grammar.Leaves (g : Grammar) (w rest : Window) (nodes : List Node) : Prop
    extends KeepsText w rest nodes where
  folded : g.folds = true → ∃ me, nodes = [me] ∧ me.value = none
  joined : g.joins = true → ∃ me, nodes = [me] ∧ me.children = [] ∧ me.value = some (w.taken rest)

/-- The reply of a grammar that keeps its text, or of the inside of a lookahead. -/
def Grammar.Replies (g : Grammar) (w : Window) : Reply → Prop
  | .ok (rest, nodes) => (g.Verbatim → g.Leaves w rest nodes) ∧ (g.IsLookahead → rest = w)
  | .error _ => True

namespace Grammar

variable {g : Grammar} {w rest : Window} {nodes : List Node}

theorem not_isLookahead_of_verbatim (hv : g.Verbatim) : ¬ g.IsLookahead := by
  rintro ⟨id, body, factory, rfl, -⟩
  cases hv with
  | folded _ hfolds _ => cases hfolds

/-- A grammar that neither folds nor joins only has to keep its text. -/
theorem Leaves.of_keepsText (h : KeepsText w rest nodes) (hfolds : g.folds = false)
    (hjoins : g.joins = false) : g.Leaves w rest nodes where
  toKeepsText := h
  folded hf := by
    rw [hfolds] at hf
    cases hf
  joined hj := by
    rw [hjoins] at hj
    cases hj

theorem Leaves.replies (h : g.Leaves w rest nodes) (hv : g.Verbatim) :
    g.Replies w (.ok (rest, nodes)) :=
  ⟨fun _ => h, fun hl => absurd hl (not_isLookahead_of_verbatim hv)⟩

/-- The reply of a grammar that neither folds nor joins. -/
theorem replies_of_keepsText (hv : g.Verbatim) (hfolds : g.folds = false) (hjoins : g.joins = false)
    {reply : Reply} (h : ∀ rest nodes, reply = .ok (rest, nodes) → KeepsText w rest nodes) :
    g.Replies w reply := by
  rcases reply with e | ⟨rest, nodes⟩
  · trivial
  · exact (Leaves.of_keepsText (h rest nodes rfl) hfolds hjoins).replies hv

/-! ## Tokens and runs of characters -/

theorem leafReply_keepsText {stop : Nat} {value : String} {factory : Option Factory}
    (hstart : w.start ≤ stop)
    (hvalue : value = String.ofList (w.buffer.extract w.start stop).toList)
    (h : leafReply w stop value factory = .ok (.ok (rest, nodes))) : KeepsText w rest nodes := by
  obtain ⟨rest', hadvance, h⟩ := bind_eq_ok.mp h
  obtain ⟨attachment, -, h⟩ := bind_eq_ok.mp h
  cases h
  have hc := Window.continues_of_advance hadvance hstart
  obtain ⟨-, hrest, -⟩ := Window.narrow_eq_ok hadvance
  refine ⟨hc, ?_⟩
  rw [Node.valuesAll_singleton, Node.values, Node.valuesAll, Option.toList_some, List.append_nil,
    String.join_cons, String.join_nil, String.append_empty, Window.taken, hrest]
  exact hvalue

theorem exactReply_keepsText {token : String} {factory : Option Factory}
    (h : exactReply token factory w = .ok (.ok (rest, nodes))) : KeepsText w rest nodes := by
  rw [exactReply] at h
  split at h
  · obtain ⟨-, htoken⟩ := Window.startsWith_token ‹_›
    obtain ⟨stop, hstop, h⟩ := bind_eq_ok.mp h
    obtain rfl := addPosition_eq_ok hstop
    exact leafReply_keepsText (Nat.le_add_right ..) htoken.symm h
  · cases h

theorem charRunReply_keepsText {min : Nat} {max : Option Nat} {cls : CharClass}
    {factory : Option Factory} (h : charRunReply min max cls factory w = .ok (.ok (rest, nodes))) :
    KeepsText w rest nodes := by
  rw [charRunReply] at h
  split at h
  · cases h
  · obtain ⟨text, htext, h⟩ := bind_eq_ok.mp h
    obtain ⟨stop, hstop, h⟩ := bind_eq_ok.mp h
    obtain rfl := addPosition_eq_ok hstop
    exact leafReply_keepsText (Nat.le_add_right ..) (Window.text_eq_ok htext) h

theorem endReply_keepsText (h : endReply w = .ok (rest, nodes)) : KeepsText w rest nodes := by
  rw [endReply] at h
  split at h
  · cases h
    exact gathers_keepsText.nil w
  · cases h

/-! ## Productions -/

/-- A memoizing consumer does what its production makes of the nodes gathered. -/
theorem memoized_replies {bindings : Bindings} (id : ConsumerId) (production : Production)
    (input : Window) (hparts : ∀ part ∈ production.parts, part.Verbatim)
    (hmade : ∀ rest nodes attachment out, KeepsText input rest nodes →
      production.handed (production.finished input rest nodes attachment).2 = .ok out →
      (memoized id production).Replies input
        (.ok ((production.finished input rest nodes attachment).1, out))) :
    ((memoized id production).plan bindings input).Meets
      (fun h _ => (memoized id production).Mentions bindings h ∧ (h.Verbatim ∨ h.IsLookahead))
      Replies (Allows ((memoized id production).Replies input)) := by
  have hpost : ∀ part ∈ production.parts, ∀ w (reply : Reply), part.Replies w reply →
      reply.Gathered KeepsText (fun _ _ => True) w := by
    rintro part hpart w (e | ⟨rest, nodes⟩) hr
    · trivial
    · exact (hr.1 (hparts part hpart)).toKeepsText
  have ht : Tolerates (fun _ => True) production.factory? := fun _ _ _ _ _ _ => trivial
  refine ((production.plan_gathers gathers_keepsText input hpost ht trivial (.inr trivial)).mono
    (fun h _ hm => ⟨.inl hm.1, .inl (hparts h hm.1)⟩) (fun _ _ _ _ hr => hr)
    fun _ hr => hr).andThen ?_ fun _ _ => allows_error
  rintro (e | made) hmade'
  · trivial
  · obtain ⟨rest, nodes, attachment, rfl, hkeeps⟩ := hmade'
    refine allows_mapError.mpr fun reply hreply => ?_
    obtain ⟨out, hhanded, rfl⟩ := map_eq_ok.mp hreply
    exact hmade rest nodes attachment out hkeeps hhanded

theorem folded_leaves (id : ConsumerId) {production : Production} (hfolds : production.folds = true)
    {input : Window} (h : KeepsText input rest nodes) (attachment : Option Attachment)
    {out : List Node}
    (hhanded : production.handed (production.finished input rest nodes attachment).2 = .ok out) :
    (memoized id production).Leaves input
      (production.finished input rest nodes attachment).1 out := by
  have hkeeps : ∀ span : Option Span, KeepsText input rest [⟨span, none, attachment, nodes⟩] := by
    refine fun span => ⟨h.continues, ?_⟩
    rw [Node.valuesAll_singleton, Node.values, Option.toList_none, List.nil_append, h.text_eq]
  cases production with
  | sequence parts factory =>
    cases hhanded
    exact ⟨hkeeps _, fun _ => ⟨_, rfl, rfl⟩, nofun⟩
  | choice branches factory =>
    cases hhanded
    exact ⟨hkeeps _, fun _ => ⟨_, rfl, rfl⟩, nofun⟩
  | repetition min max body factory =>
    cases hhanded
    exact ⟨hkeeps _, fun _ => ⟨_, rfl, rfl⟩, nofun⟩
  | _ => cases hfolds

theorem joined_leaves (id : ConsumerId) (body : Grammar) (factory : Option Factory)
    {input : Window} (h : KeepsText input rest nodes) (span : Option Span)
    (attachment : Option Attachment) :
    (memoized id (.join "" body factory)).Leaves input rest
      [⟨span, some (Node.joinValues "" nodes), attachment, []⟩] := by
  have htext : Node.joinValues "" nodes = input.taken rest := by
    rw [Node.joinValues_empty, h.text_eq]
  refine ⟨⟨h.continues, ?_⟩, nofun, fun _ => ⟨_, rfl, rfl, congrArg some htext⟩⟩
  rw [Node.valuesAll_singleton, Node.values, Node.valuesAll, Option.toList_some, List.append_nil,
    String.join_cons, String.join_nil, String.append_empty]
  exact htext

/-- A lift hands on the children of a node that has no value of its own. -/
theorem lifted_replies {bindings : Bindings} (id : ConsumerId) {body : Grammar}
    (factory : Option Factory) (input : Window) (hv : (memoized id (.lift body factory)).Verbatim)
    (hbody : body.Verbatim) (hfolds : body.folds = true) :
    ((memoized id (.lift body factory)).plan bindings input).Meets
      (fun h _ => (memoized id (.lift body factory)).Mentions bindings h ∧
        (h.Verbatim ∨ h.IsLookahead))
      Replies (Allows ((memoized id (.lift body factory)).Replies input)) := by
  refine ⟨⟨.inl (.head _), .inl hbody⟩, fun reply hr => ?_⟩
  rcases reply with e | ⟨rest, nodes⟩
  · trivial
  · have hleaves := hr.1 hbody
    obtain ⟨me, rfl, hvalue⟩ := hleaves.folded hfolds
    refine allows_mapError.mpr fun reply hreply => ?_
    obtain ⟨out, hhanded, rfl⟩ := map_eq_ok.mp hreply
    have hsame := Production.handed_eq_ok hhanded
    refine (Leaves.of_keepsText ⟨hleaves.continues, ?_⟩ rfl rfl).replies hv
    rw [Node.valuesAll_reattached hsame, Production.given, Production.grandchildren,
      List.flatMap_singleton, ← hleaves.text_eq, Node.valuesAll_singleton,
      Node.values_of_value_eq_none hvalue]

/-- **A grammar keeps its text if what it asks does.** -/
theorem plan_replies {bindings : Bindings} (hg : g.Verbatim ∨ g.IsLookahead)
    (htargets : ∀ name target, g = .reference name → bindings.target? name = some target →
      target.Verbatim) (input : Window) :
    (g.plan bindings input).Meets
      (fun h _ => g.Mentions bindings h ∧ (h.Verbatim ∨ h.IsLookahead))
      Replies (Allows (g.Replies input)) := by
  rcases hg with hv | ⟨id, body, factory, rfl, hbody⟩
  · cases id hv with
    | exact token factory =>
      refine allows_mapError.mpr fun reply hreply => ?_
      exact replies_of_keepsText hv rfl rfl fun rest nodes he => exactReply_keepsText (he ▸ hreply)
    | charRun min max cls factory =>
      refine allows_mapError.mpr fun reply hreply => ?_
      exact replies_of_keepsText hv rfl rfl fun rest nodes he =>
        charRunReply_keepsText (he ▸ hreply)
    | endOfInput => exact replies_of_keepsText hv rfl rfl fun rest nodes he => endReply_keepsText he
    | @require body hbody =>
      refine ⟨⟨.inl (.head _), .inl hbody⟩, fun reply hr => ?_⟩
      rcases reply with e | ⟨rest, nodes⟩
      · trivial
      · exact (Leaves.of_keepsText (hr.1 hbody).toKeepsText rfl rfl).replies hv
    | @group name body hbody =>
      refine ⟨⟨.inl (.head _), .inl hbody⟩, fun reply hr => ?_⟩
      rcases reply with e | ⟨rest, nodes⟩
      · trivial
      · exact (Leaves.of_keepsText (hr.1 hbody).toKeepsText rfl rfl).replies hv
    | reference name =>
      rw [plan]
      cases ht : bindings.target? name with
      | none => trivial
      | some target =>
        have htarget := htargets name target rfl ht
        refine ⟨⟨.inr ⟨name, rfl, ht⟩, .inl htarget⟩, fun reply hr => ?_⟩
        rcases reply with e | ⟨rest, nodes⟩
        · trivial
        · exact (Leaves.of_keepsText (hr.1 htarget).toKeepsText rfl rfl).replies hv
    | @peek id body factory hbody =>
      have hlookahead : IsLookahead (.memoized id (.preserve body factory)) :=
        ⟨id, body, factory, rfl, hbody⟩
      refine ⟨⟨.inl (.head _), .inr hlookahead⟩, fun reply hr => ?_⟩
      rcases reply with e | ⟨rest, nodes⟩
      · trivial
      · obtain rfl := hr.2 hlookahead
        exact (Leaves.of_keepsText (gathers_keepsText.nil rest) rfl rfl).replies hv
    | @folded id production hfolds hparts =>
      refine memoized_replies id production input hparts fun rest nodes a out hkeeps hhanded => ?_
      exact (folded_leaves id hfolds hkeeps a hhanded).replies hv
    | @lifted id inner production factory hfolds hparts =>
      exact lifted_replies id factory input hv (.folded inner hfolds hparts) hfolds
    | @joined id body factory hbody =>
      have hparts : ∀ part ∈ Production.parts (.join "" body factory), part.Verbatim := by
        intro part hpart
        rw [List.mem_singleton.mp hpart]
        exact hbody
      refine memoized_replies id _ input hparts fun rest nodes a out hkeeps hhanded => ?_
      cases hhanded
      exact (joined_leaves id body factory hkeeps _ a).replies hv
  · have hparts : ∀ part ∈ Production.parts (.preserve body factory), part.Verbatim := by
      intro part hpart
      rw [List.mem_singleton.mp hpart]
      exact hbody
    refine memoized_replies id _ input hparts fun rest nodes a out _ _ => ?_
    -- The node is left to the frame around the lookahead, which drops it.
    refine ⟨fun hv => ?_, fun _ => rfl⟩
    exact absurd ⟨id, body, factory, rfl, hbody⟩ (not_isLookahead_of_verbatim hv)

end Grammar

/-- **No text is lost or duplicated.**  Let members of a repertoire have filled the table of `s`
from the text of `w`.  If a grammar that keeps its text, as all do that its references stand for,
leaves `rest` of `w`, then the values of the nodes that it appends, a node before its children, are
the text that was consumed.  So a join leaves one node without children, whose value is that
text. -/
theorem text_kept {env : Environment} {S : Grammar → Prop} (h : Repertoire env.bindings S)
    {w : Window} {s : Session} (hs : s.Reached env S w.buffer) {g : Grammar} (hg : S g)
    (hv : g.Verbatim)
    (htargets : ∀ name target, g.Uses env.bindings (.reference name) →
      env.bindings.target? name = some target → target.Verbatim)
    {fuel : Nat} {parent after : NodeBuilder} {rest : Window} {s' : Session}
    (hexec : (g.consume env fuel w parent).exec s = (.ok ⟨.ok rest, after⟩, s')) :
    ∃ nodes text, after = parent.extend nodes ∧ w.slice w.start rest.start = .ok text ∧
      String.join (Node.valuesAll nodes) = text ∧
      (g.joins = true → ∃ node, nodes = [node] ∧ node.children = [] ∧ node.value = some text) := by
  obtain ⟨r, s₁, hexec', hsettles, -⟩ :=
    h.consume_exec hg rfl fuel parent (h.valid_of_reached hs)
  obtain ⟨hr, -⟩ := Prod.mk.inj (hexec.symm.trans hexec')
  have hsettled : Settles env.bindings (g.plan env.bindings w) r := by
    refine hsettles.resolve_left fun hfuel => ?_
    rw [hfuel] at hr
    cases hr
  -- The invariant of all questions: what is asked is a rule of `g` that keeps its text too.
  have hplan : ∀ rule w', g.Uses env.bindings rule ∧ (rule.Verbatim ∨ rule.IsLookahead) →
      (rule.plan env.bindings w').Meets
        (fun h _ => g.Uses env.bindings h ∧ (h.Verbatim ∨ h.IsLookahead)) Grammar.Replies
        (Allows (rule.Replies w')) := by
    rintro rule w' ⟨huses, hrule⟩
    refine (Grammar.plan_replies hrule ?_ w').mono
      (fun h _ hm => ⟨huses.tail hm.1, hm.2⟩) (fun _ _ _ _ hr => hr) fun _ hr => hr
    rintro name target rfl ht
    exact htargets name target huses ht
  have hreplies := hsettled.meets hplan (hplan g w ⟨.refl, .inl hv⟩) fun _ => allows_error
  rcases r with halt | e | ⟨rest', nodes⟩
  · cases hr
  · cases hr
  · cases hr
    have hleaves : g.Leaves w rest nodes := hreplies.1 hv
    exact ⟨nodes, w.taken rest, rfl, hleaves.continues.slice_eq, hleaves.text_eq, hleaves.joined⟩

/-- A list of two letters keeps both, the second one after it was looked for. -/
theorem letters_text_kept :
    let env : Environment := ⟨Letters.bindings, true⟩
    let w := Window.ofText "aa"
    let behind : Window := ⟨w.buffer, 1, 2, by decide, by decide⟩
    let s := ((Letters.list.consume env 9 behind .empty).exec {}).2
    Repertoire env.bindings (· ∈ Letters.grammars) ∧
      s.Reached env (· ∈ Letters.grammars) w.buffer ∧ Letters.list ∈ Letters.grammars ∧
      Letters.list.Verbatim ∧
      ∃ fuel rest after s' nodes,
        (Letters.list.consume env fuel w .empty).exec s = (.ok ⟨.ok rest, after⟩, s') ∧
          after = NodeBuilder.empty.extend nodes ∧ String.join (Node.valuesAll nodes) = "aa" := by
  intro env w behind s
  have hrep : Repertoire env.bindings (· ∈ Letters.grammars) := Letters.repertoire
  have hg : Letters.list ∈ Letters.grammars := .head _
  have hs : s.Reached env (· ∈ Letters.grammars) w.buffer := .consumed 9 .empty (.fresh rfl) hg rfl
  have hmore : Letters.more.Verbatim := by
    refine .folded ⟨1⟩ rfl fun part hpart => ?_
    simp only [Production.parts, List.mem_cons, List.not_mem_nil, or_false] at hpart
    rcases hpart with rfl | rfl
    · exact .exact "a" none
    · exact .reference "list"
  have hnil : Letters.nil.Verbatim := by
    refine .folded ⟨2⟩ rfl fun part hpart => ?_
    rw [List.mem_singleton.mp hpart]
    exact .endOfInput
  have hlist : Letters.list.Verbatim := by
    refine .folded ⟨3⟩ rfl fun part hpart => ?_
    simp only [Production.parts, List.mem_cons, List.not_mem_nil, or_false] at hpart
    rcases hpart with rfl | rfl
    · exact hmore
    · exact hnil
  have htargets : ∀ name target, Letters.list.Uses env.bindings (.reference name) →
      env.bindings.target? name = some target → target.Verbatim := by
    intro name target _ ht
    obtain ⟨-, rfl⟩ := Letters.eq_of_target ht
    exact hlist
  obtain ⟨rest, after, t, hplain, hrest⟩ : ∃ rest after t,
      (Letters.list.consume ⟨Letters.bindings, false⟩ 9 w .empty).exec {} =
        (.ok ⟨.ok rest, after⟩, t) ∧ rest.start = 2 := ⟨_, _, _, rfl, rfl⟩
  obtain ⟨fuel, s', hexec⟩ := Letters.repertoire.exists_exec_of_plain hs hg rfl hplain
  obtain ⟨nodes, text, hafter, hslice, htext, -⟩ := text_kept hrep hs hg hlist htargets hexec
  have haa : w.slice 0 2 = .ok "aa" := rfl
  rw [hrest] at hslice
  obtain rfl := Except.ok.inj (hslice.symm.trans haa)
  exact ⟨hrep, hs, hg, hlist, fuel, rest, after, s', nodes, hexec, hafter, htext⟩

end Packrat
