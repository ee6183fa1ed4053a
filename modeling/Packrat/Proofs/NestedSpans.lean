import Packrat.Proofs.MemoTransparency

/-! # Spans are nested and in order

The nodes that a consumer appends span parts of the text that it takes, one behind the other, and
the children of each lie in the same way within its span (`Node.Ordered`).  A lookahead is the one
exception, since its node spans nothing while its children reach beyond it.  So a grammar in which
each lookahead is skipped at once (`Grammar.SkipsLookaheads`), as every peek is, has its spans in
order at every depth (`spans_nested`).

Nodes are moved about on the way.  What a production gathers is in order because the parts are asked
one behind the other; lifting hands on the children of neighbours, which lie within their parents;
and a translated node gets a wider span around the children it had.
-/
namespace Packrat

/-! ## Forests in order -/

/-- `Ordered lo nodes hi`: each of the nodes has a span, the first one starts at `lo` or later, each
other one not before the end of the one in front of it, and the last one ends at `hi` or earlier;
and the children of each node are in order within its span. -/
inductive Node.Ordered : Nat → List Node → Nat → Prop
  | nil {lo hi : Nat} : lo ≤ hi → Ordered lo [] hi
  | cons {lo start stop hi : Nat} {value : Option String} {attachment : Option Attachment}
      {children nodes : List Node} :
      lo ≤ start → start ≤ stop → Ordered start children stop → Ordered stop nodes hi →
      Ordered lo (⟨some ⟨start, stop⟩, value, attachment, children⟩ :: nodes) hi

namespace Node.Ordered

variable {lo mid hi lo' hi' : Nat} {nodes more out : List Node}

theorem le (h : Ordered lo nodes hi) : lo ≤ hi := by
  induction h with
  | nil hle => exact hle
  | cons hstart hle _ _ _ ih => omega

theorem mono (h : Ordered lo nodes hi) (hlo : lo' ≤ lo) (hhi : hi ≤ hi') :
    Ordered lo' nodes hi' := by
  induction h generalizing lo' with
  | nil hle => exact .nil (by omega)
  | cons hstart hle hchildren _ _ ih =>
    exact .cons (Nat.le_trans hlo hstart) hle hchildren (ih (Nat.le_refl _) hhi)

theorem append (h : Ordered lo nodes mid) (h' : Ordered mid more hi) :
    Ordered lo (nodes ++ more) hi := by
  induction h with
  | nil hle => exact h'.mono hle (Nat.le_refl _)
  | cons hstart hle hchildren _ _ ih => exact .cons hstart hle hchildren (ih h')

/-- A node around a forest in order. -/
theorem around (h : Ordered lo nodes hi) (value : Option String)
    (attachment : Option Attachment) :
    Ordered lo [⟨some ⟨lo, hi⟩, value, attachment, nodes⟩] hi :=
  .cons (Nat.le_refl _) h.le h (.nil (Nat.le_refl _))

/-- The children of nodes in order are in order. -/
theorem flatMap_children (h : Ordered lo nodes hi) :
    Ordered lo (nodes.flatMap (·.children)) hi := by
  induction h with
  | nil hle => exact .nil hle
  | cons hstart _ hchildren _ _ ih =>
    exact (hchildren.mono hstart (Nat.le_refl _)).append ih

/-- The order does not depend on attachments. -/
theorem reattached (hsame : List.Forall₂ Node.Reattached nodes out) (h : Ordered lo nodes hi) :
    Ordered lo out hi := by
  induction hsame generalizing lo with
  | nil => exact h
  | @cons m n _ _ hfirst _ ih =>
    obtain ⟨span, value, attachment, children⟩ := n
    obtain ⟨rfl, -, rfl⟩ := hfirst
    cases h with
    | cons hstart hle hchildren hrest => exact .cons hstart hle hchildren (ih hrest)

/-- The children of the only node of a forest in order. -/
theorem children_of_singleton {node : Node} (h : Ordered lo [node] hi) :
    Ordered lo node.children hi := by
  simpa using h.flatMap_children

end Node.Ordered

/-! ## Grammars that skip their lookaheads -/

namespace Grammar

/-- Whether the grammar is a lookahead that leaves its node. -/
def looksAhead : Grammar → Bool
  | memoized _ (.preserve ..) => true
  | _ => false

/-- Whether the grammar drops the nodes of its part. -/
def isSkip : Grammar → Bool
  | skip _ => true
  | _ => false

/-- Each lookahead among the rules of `g` is the part of a skip, and `g` itself is none. -/
structure SkipsLookaheads (bindings : Bindings) (g : Grammar) : Prop where
  not_looksAhead : g.looksAhead = false
  skipped : ∀ rule part, g.Uses bindings rule → rule.Mentions bindings part →
    part.looksAhead = true → rule.isSkip = true

end Grammar

/-! ## What a combinator keeps -/

/-- The nodes that were made between `w` and `rest` are in order there. -/
def InOrder (w rest : Window) (nodes : List Node) : Prop :=
  w.Continues rest ∧ Node.Ordered w.start nodes rest.start

theorem gathers_inOrder : Gathers InOrder fun _ _ => True where
  nil w := ⟨.refl w, .nil (Nat.le_refl _)⟩
  append h h' := ⟨h.1.trans h'.1, h.2.append h'.2⟩
  continues h := h.1
  later _ _ := trivial
  mismatch _ _ := trivial
  noAlternative _ := trivial
  context _ _ := trivial

/-- The nodes of a reply are in order, unless they are those of a lookahead. -/
def Grammar.Places (g : Grammar) (w : Window) : Reply → Prop
  | .ok (rest, nodes) => w.Continues rest ∧ (g.looksAhead = false → InOrder w rest nodes)
  | .error _ => True

namespace Production

/-- A finished node lies around the nodes that were gathered, unless it is that of a lookahead. -/
theorem finished_inOrder (production : Production) (id : ConsumerId)
    (hnot : (Grammar.memoized id production).looksAhead = false) {input rest : Window}
    {nodes : List Node} (h : InOrder input rest nodes) (attachment : Option Attachment) :
    InOrder input (production.finished input rest nodes attachment).1
      [(production.finished input rest nodes attachment).2] := by
  obtain ⟨hc, hnodes⟩ := h
  cases production with
  | join joint body factory =>
    exact ⟨hc, Node.Ordered.around (.nil hc.start_le) _ attachment⟩
  | preserve body factory => cases hnot
  | _ => exact ⟨hc, hnodes.around none attachment⟩

/-- The nodes that are handed over for a node in order are in order. -/
theorem handed_ordered {production : Production} {lo hi : Nat} {me : Node} {nodes : List Node}
    (h : Node.Ordered lo [me] hi) (hhanded : production.handed me = .ok nodes) :
    Node.Ordered lo nodes hi := by
  refine Node.Ordered.reattached (handed_eq_ok hhanded) ?_
  cases production with
  | lift body factory => exact h.children_of_singleton.flatMap_children
  | _ => exact h

end Production

namespace Grammar

variable {bindings : Bindings} {g : Grammar} {input rest : Window} {nodes : List Node}

theorem InOrder.places (h : InOrder input rest nodes) : g.Places input (.ok (rest, nodes)) :=
  ⟨h.1, fun _ => h⟩

theorem leafReply_inOrder {stop : Nat} {value : String} {factory : Option Factory}
    (hstart : input.start ≤ stop)
    (h : leafReply input stop value factory = .ok (.ok (rest, nodes))) :
    InOrder input rest nodes := by
  obtain ⟨rest', hadvance, h⟩ := bind_eq_ok.mp h
  obtain ⟨attachment, -, h⟩ := bind_eq_ok.mp h
  cases h
  obtain ⟨-, rfl, -⟩ := Window.narrow_eq_ok hadvance
  exact ⟨Window.continues_of_advance hadvance hstart,
    Node.Ordered.around (.nil hstart) (some value) attachment⟩

theorem exactReply_places {token : String} {factory : Option Factory} {reply : Reply}
    (h : exactReply token factory input = .ok reply) : g.Places input reply := by
  rcases reply with e | ⟨rest, nodes⟩
  · trivial
  · rw [exactReply] at h
    split at h
    · obtain ⟨stop, hstop, h⟩ := bind_eq_ok.mp h
      obtain rfl := addPosition_eq_ok hstop
      exact InOrder.places (leafReply_inOrder (Nat.le_add_right ..) h)
    · cases h

theorem charRunReply_places {min : Nat} {max : Option Nat} {cls : CharClass}
    {factory : Option Factory} {reply : Reply}
    (h : charRunReply min max cls factory input = .ok reply) : g.Places input reply := by
  rcases reply with e | ⟨rest, nodes⟩
  · trivial
  · rw [charRunReply] at h
    split at h
    · cases h
    · obtain ⟨text, -, h⟩ := bind_eq_ok.mp h
      obtain ⟨stop, hstop, h⟩ := bind_eq_ok.mp h
      obtain rfl := addPosition_eq_ok hstop
      exact InOrder.places (leafReply_inOrder (Nat.le_add_right ..) h)

theorem endReply_places (input : Window) : g.Places input (endReply input) := by
  rw [endReply]
  split
  · exact InOrder.places (gathers_inOrder.nil input)
  · trivial

/-- A translated node spans all that was taken, around the children that it had. -/
theorem replacedReply_places {translator : Translator} {reply : Reply}
    (hnodes : InOrder input rest nodes)
    (h : replacedReply translator input rest nodes = .ok reply) : g.Places input reply := by
  match nodes, hnodes with
  | [node], ⟨hc, hordered⟩ =>
    rw [replacedReply] at h
    split at h
    all_goals
      obtain ⟨text, -, h⟩ := bind_eq_ok.mp h
      cases h
      exact InOrder.places ⟨hc, hordered.children_of_singleton.around _ node.attachment⟩
  | [], _ =>
    cases h
    trivial
  | _ :: _ :: _, _ =>
    cases h
    trivial

/-- **A combinator keeps spans in order if what it asks does.** -/
theorem plan_places (hg : g.isCombinator) (input : Window)
    (hskipped : ∀ part, g.Mentions bindings part → part.looksAhead = true → g.isSkip = true) :
    (g.plan bindings input).Meets (fun h _ => g.Mentions bindings h) Places
      (Allows (g.Places input)) := by
  -- But for a skip, a grammar sees nodes in order.
  have hseen : g.isSkip = false → ∀ part w rest nodes, g.Mentions bindings part →
      part.Places w (.ok (rest, nodes)) → InOrder w rest nodes := by
    intro hskip part w rest nodes hm hr
    refine hr.2 (Bool.eq_false_iff.mpr fun hlooks => ?_)
    rw [hskipped part hm hlooks] at hskip
    cases hskip
  cases g with
  | exact token factory => exact allows_mapError.mpr fun _ => exactReply_places
  | charRun min max cls factory => exact allows_mapError.mpr fun _ => charRunReply_places
  | endOfInput => exact endReply_places input
  | skip body =>
    refine ⟨.inl (.head _), fun reply hr => ?_⟩
    rcases reply with e | ⟨rest, nodes⟩
    · trivial
    · exact InOrder.places ⟨hr.1, .nil hr.1.start_le⟩
  | require body =>
    refine ⟨.inl (.head _), fun reply hr => ?_⟩
    rcases reply with e | ⟨rest, nodes⟩
    · trivial
    · exact InOrder.places (hseen rfl body input rest nodes (.inl (.head _)) hr)
  | group name body =>
    refine ⟨.inl (.head _), fun reply hr => ?_⟩
    rcases reply with e | ⟨rest, nodes⟩
    · trivial
    · exact InOrder.places (hseen rfl body input rest nodes (.inl (.head _)) hr)
  | replace translator body =>
    refine ⟨.inl (.head _), fun reply hr => ?_⟩
    rcases reply with e | ⟨rest, nodes⟩
    · trivial
    · have hnodes := hseen rfl body input rest nodes (.inl (.head _)) hr
      exact allows_mapError.mpr fun _ => replacedReply_places hnodes
  | reference name =>
    rw [plan]
    cases ht : bindings.target? name with
    | none => trivial
    | some target =>
      have hm : (reference name).Mentions bindings target := .inr ⟨name, rfl, ht⟩
      refine ⟨hm, fun reply hr => ?_⟩
      rcases reply with e | ⟨rest, nodes⟩
      · trivial
      · exact InOrder.places (hseen rfl target input rest nodes hm hr)
  | memoized id production =>
    have hpost : ∀ part ∈ production.parts, ∀ w (reply : Reply), part.Places w reply →
        reply.Gathered InOrder (fun _ _ => True) w := by
      rintro part hpart w (e | ⟨rest, nodes⟩) hr
      · trivial
      · exact hseen rfl part w rest nodes (.inl hpart) hr
    have ht : Tolerates (fun _ => True) production.factory? := fun _ _ _ _ _ _ => trivial
    refine ((production.plan_gathers gathers_inOrder input hpost ht trivial (.inr trivial)).mono
      (fun h _ hm => .inl hm.1) (fun _ _ _ _ hr => hr) fun _ hr => hr).andThen ?_
      fun _ _ => allows_error
    rintro (e | made) hmade
    · trivial
    · obtain ⟨rest, nodes, attachment, rfl, hnodes⟩ := hmade
      refine allows_mapError.mpr fun reply hreply => ?_
      obtain ⟨out, hhanded, rfl⟩ := map_eq_ok.mp hreply
      refine ⟨(production.finished_fits hnodes.1 nodes attachment).1, fun hnot => ?_⟩
      obtain ⟨hc, hme⟩ := production.finished_inOrder id hnot hnodes attachment
      exact ⟨hc, Production.handed_ordered hme hhanded⟩
  | windowed size body =>
    rw [plan]
    cases hn : input.narrow input.start (input.start + min size input.length) with
    | error v => trivial
    | ok inner =>
      have hi := Window.encloses_of_narrow hn
      refine ⟨.inl (.head _), fun reply hr => ?_⟩
      rcases reply with e | ⟨rest, nodes⟩
      · trivial
      · obtain ⟨hc, hnodes⟩ := hseen rfl body inner rest nodes (.inl (.head _)) hr
        refine allows_mapError.mpr fun reply hreply => ?_
        obtain ⟨rest', ha, rfl⟩ := map_eq_ok.mp hreply
        obtain ⟨-, hstart, -⟩ := Window.narrow_eq_ok ha
        have hc' := Window.continues_of_advance ha (Nat.le_trans hi.start_le hc.start_le)
        exact InOrder.places ⟨hc', hnodes.mono hi.start_le (Nat.le_of_eq hstart.symm)⟩
  | counted name body => cases hg
  | once flag first later => cases hg
  | fail error => cases hg

end Grammar

/-- **Spans are nested, in order and without overlap.**  Let members of a repertoire have filled the
table of `s` from the text of `w`.  If a member that skips its lookaheads leaves `rest` of `w`, then
the nodes that it appends lie between the start of `w` and the start of `rest`, one behind the
other, and so do the children of each node within its span. -/
theorem spans_nested {env : Environment} {S : Grammar → Prop} (h : Repertoire env.bindings S)
    {w : Window} {s : Session} (hs : s.Reached env S w.buffer) {g : Grammar} (hg : S g)
    (hskips : g.SkipsLookaheads env.bindings) {fuel : Nat} {parent after : NodeBuilder}
    {rest : Window} {s' : Session}
    (hexec : (g.consume env fuel w parent).exec s = (.ok ⟨.ok rest, after⟩, s')) :
    ∃ nodes, after = parent.extend nodes ∧ Node.Ordered w.start nodes rest.start := by
  obtain ⟨r, s₁, hexec', hsettles, -⟩ :=
    h.consume_exec hg rfl fuel parent (h.valid_of_reached hs)
  obtain ⟨hr, -⟩ := Prod.mk.inj (hexec.symm.trans hexec')
  have hsettled : Settles env.bindings (g.plan env.bindings w) r := by
    refine hsettles.resolve_left fun hfuel => ?_
    rw [hfuel] at hr
    cases hr
  -- The invariant of all questions: what is asked is a rule of `g`.
  have hplan : ∀ rule w', g.Uses env.bindings rule →
      (rule.plan env.bindings w').Meets (fun h _ => g.Uses env.bindings h) Grammar.Places
        (Allows (rule.Places w')) := by
    intro rule w' huses
    exact (Grammar.plan_places (h.isCombinator rule (h.uses hg huses)) w'
      (hskips.skipped rule · huses)).mono (fun h _ hm => huses.tail hm) (fun _ _ _ _ hr => hr)
      fun _ hr => hr
  have hplaces := hsettled.meets hplan (hplan g w .refl) fun _ => allows_error
  rcases r with halt | e | ⟨rest', nodes⟩
  · cases hr
  · cases hr
  · cases hr
    obtain ⟨-, hordered⟩ := hplaces.2 hskips.not_looksAhead
    exact ⟨nodes, rfl, hordered⟩

/-- A lookahead, two letters that are lifted out of their sequence, and a letter that is put between
brackets: three nodes one behind the other under one that spans them.  The two letters were looked
for before. -/
theorem peeked_spans_nested :
    let ahead : Grammar := .skip (.memoized ⟨1⟩ (.preserve (.exact "ab" none) none))
    let pair : Grammar :=
      .memoized ⟨3⟩
        (.lift (.memoized ⟨2⟩ (.sequence [.exact "a" none, .exact "b" none] none)) none)
    let mark : Grammar := .replace .wrap (.exact "c" none)
    let g : Grammar := .memoized ⟨4⟩ (.sequence [ahead, pair, mark] none)
    let env : Environment := ⟨[], true⟩
    let w := Window.ofText "abc"
    let s := ((pair.consume env 9 w .empty).exec {}).2
    Repertoire env.bindings (· ∈ g.subgrammars) ∧
      s.Reached env (· ∈ g.subgrammars) w.buffer ∧ g.SkipsLookaheads env.bindings ∧
      ∃ fuel rest after s' nodes,
        (g.consume env fuel w .empty).exec s = (.ok ⟨.ok rest, after⟩, s') ∧
          rest.start = 3 ∧ after = NodeBuilder.empty.extend nodes ∧ Node.Ordered 0 nodes 3 := by
  intro ahead pair mark g env w s
  have hrep : Repertoire env.bindings (· ∈ g.subgrammars) := .of_nodup (by decide) (by decide)
  have hg : g ∈ g.subgrammars := Grammar.self_mem_subgrammars g
  have hpair : pair ∈ g.subgrammars := hrep.closed g pair hg (.inl (.tail _ (.head _)))
  have hs : s.Reached env (· ∈ g.subgrammars) w.buffer := .consumed 9 .empty (.fresh rfl) hpair rfl
  have hskips : g.SkipsLookaheads env.bindings := by
    have hwritten : ∀ rule ∈ g.subgrammars, ∀ part ∈ rule.parts,
        part.looksAhead = true → rule.isSkip = true := by
      simp [g, ahead, pair, mark, Grammar.subgrammars, Grammar.subgrammarsOf,
        Grammar.subgrammarsAll, Grammar.parts, Production.parts, Grammar.looksAhead,
        Grammar.isSkip]
    refine ⟨rfl, fun rule part huses hm hlooks => ?_⟩
    have hrule : rule ∈ g.subgrammars := hrep.uses hg huses
    rcases hm with hpart | ⟨name, -, ht⟩
    · exact hwritten rule hrule part hpart hlooks
    · cases ht
  obtain ⟨rest, after, t, hplain, hrest⟩ : ∃ rest after t,
      (g.consume ⟨[], false⟩ 9 w .empty).exec {} = (.ok ⟨.ok rest, after⟩, t) ∧ rest.start = 3 :=
    ⟨_, _, _, rfl, rfl⟩
  obtain ⟨fuel, s', hexec⟩ := hrep.exists_exec_of_plain hs hg rfl hplain
  obtain ⟨nodes, hafter, hordered⟩ := spans_nested hrep hs hg hskips hexec
  rw [hrest] at hordered
  exact ⟨hrep, hs, hskips, fuel, rest, after, s', nodes, hexec, hrest, hafter, hordered⟩

end Packrat
