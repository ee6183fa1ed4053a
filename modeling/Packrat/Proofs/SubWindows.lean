import Packrat.Factory.Ready
import Packrat.Proofs.Likeness

/-! # A window parses like a text of its own

What is in view in a window may stand alone, as a text of its own (`Window.alone`).  A grammar
answers the same for both, except that in the window all places are further on by the start of the
window: the rest, the spans of all nodes, and the positions of an error and of its causes
(`window_parses_alone`).  So nothing in front of a window or behind it is ever looked at.

The one thing that could tell the two apart is a factory that looks at the spans of the children it
is given (`Factory.IgnoresSpans`).
-/
namespace Packrat

/-- The window on the whole of a text that is what `w` has in view. -/
def Window.alone (w : Window) : Window :=
  .ofText (String.ofList (w.buffer.extract w.start w.stop).toList)

theorem Window.buffer_alone (w : Window) : w.alone.buffer = w.buffer.extract w.start w.stop := by
  show (String.ofList (w.buffer.extract w.start w.stop).toList).toList.toArray = _
  rw [String.toList_ofList, Array.toArray_toList]

/-- Children that differ in nothing but spans, at any depth, get the same attachment. -/
def Factory.IgnoresSpans (f : Factory) : Prop :=
  ∀ text nodes nodes', nodes.map Node.spanless = nodes'.map Node.spanless →
    f.create text nodes = f.create text nodes'

/-- The factories of all rules of `g` ignore spans. -/
def Grammar.IgnoresSpans (bindings : Bindings) (g : Grammar) : Prop :=
  ∀ rule f, g.Uses bindings rule → rule.factory? = some f → f.IgnoresSpans

/-- Places that are further on do not count as a difference. -/
theorem Node.spanless_shift (offset : Nat) (node : Node) :
    (node.shift offset).spanless = node.spanless :=
  relabel_relabel ..

/-! ## A window and its text -/

/-- What `w` has in view, as a part of the text of `w`, for the rules of `g`.  Attachments are
compared as they are, and neither run may be broken off on its own. -/
def Likeness.ofWindow (bindings : Bindings) (g : Grammar) (w : Window)
    (hsize : w.buffer.size < positionBound) : Likeness where
  pairs a a' := a = a' ∧ g.Uses bindings a
  part := w.alone.buffer
  whole := w.buffer
  offset := w.start
  keep := id
  left _ := False
  right _ := False
  fits := by
    have hstart := w.start_le
    have hstop := w.stop_le
    rw [w.buffer_alone, Array.size_extract]
    omega
  extract_eq := by
    have hstart := w.start_le
    have hstop := w.stop_le
    rw [w.buffer_alone, Array.size_extract]
    congr 1
    omega
  positions := .inr hsize

section Alone

variable {bindings : Bindings} {g : Grammar} {w : Window} {hsize : w.buffer.size < positionBound}

/-- A combinator is of one kind with itself. -/
theorem Production.counterparts_self (production : Production) :
    production.Counterparts Eq production := by
  have hlist : ∀ parts : List Grammar, List.Forall₂ Eq parts parts := fun parts =>
    List.forall₂_same.mpr fun _ _ => rfl
  cases production with
  | sequence parts factory => exact .sequence _ _ (hlist parts)
  | choice branches factory => exact .choice _ _ (hlist branches)
  | repetition min max body factory => exact .repetition _ _ _ _ rfl
  | lift body factory => exact .lift _ _ rfl
  | join joint body factory => exact .join _ _ _ rfl
  | preserve body factory => exact .preserve _ _ rfl

theorem Grammar.counterparts_self (bindings : Bindings) {g : Grammar} (hg : g.isCombinator) :
    g.Counterparts bindings bindings Eq g := by
  cases g with
  | exact token factory => exact .exact token factory factory
  | charRun min max cls factory => exact .charRun min max cls factory factory
  | endOfInput => exact .endOfInput
  | skip body => exact .skip rfl
  | require body => exact .require rfl
  | group name body => exact .group name rfl
  | replace translator body => exact .replace translator rfl
  | reference name =>
    refine .reference name ?_
    cases bindings.target? name with
    | none => exact .none
    | some target => exact .some rfl
  | memoized id production => exact .memoized id id production.counterparts_self
  | windowed size body => exact .windowed size rfl
  | counted name body => cases hg
  | once flag first later => cases hg
  | fail error => cases hg

/-- Nodes alike are the nodes of the text alone, further on. -/
theorem Likeness.eq_map_of_ofWindow_nodes {nodes nodes' : List Node}
    (h : (Likeness.ofWindow bindings g w hsize).Nodes nodes nodes') :
    nodes' = nodes.map (Node.shift w.start) := by
  have hfar : (Likeness.ofWindow bindings g w hsize).far = id := funext Node.relabel_id
  rw [Likeness.Nodes, hfar, List.map_id] at h
  exact h.symm

/-- The runs on a window and on its text alone are in step. -/
theorem Likeness.ofWindow_kept {S : Grammar → Prop} (h : Repertoire bindings S) (hg : S g)
    (hspans : g.IgnoresSpans bindings) :
    (Likeness.ofWindow bindings g w hsize).coupling.Kept bindings bindings := by
  refine Likeness.kept ?_
  rintro a _ ⟨rfl, huses⟩
  constructor
  · have hcombinator := h.isCombinator a (h.uses hg huses)
    exact (Grammar.counterparts_self bindings hcombinator).imp
      fun b b' hb _ hpair => ⟨hpair, huses.tail hb⟩
  · refine .inl ⟨rfl, fun f hf text nodes nodes' hnodes => hspans a f huses hf text _ _ ?_⟩
    rw [Likeness.eq_map_of_ofWindow_nodes hnodes, List.map_map]
    exact List.map_congr_left fun node _ => (node.spanless_shift w.start).symm

/-- The window shows what its text shows alone. -/
theorem Likeness.ofWindow_windows : (Likeness.ofWindow bindings g w hsize).Windows w.alone w := by
  have hsize : w.alone.stop = w.alone.buffer.size := rfl
  have hstart := w.start_le
  have hstop := w.stop_le
  refine ⟨rfl, rfl, (Nat.zero_add _).symm, ?_⟩
  rw [hsize, w.buffer_alone, Array.size_extract]
  show w.stop = _ + w.start
  omega

end Alone

/-- `o'` is for the window `w` what `o` is for the text that it has in view: both leave the same
rest, or the errors are the same but for their places, and the nodes appended to the parents are the
same but for their places. -/
structure Outcome.FurtherOn (w : Window) (parent parent' : NodeBuilder) (o o' : Outcome) :
    Prop where
  result : match o.result, o'.result with
    | .ok rest, .ok rest' => rest'.buffer = w.buffer ∧ rest'.start = rest.start + w.start ∧
        rest'.stop = rest.stop + w.start
    | .error e, .error e' => e' = e.shift w.start
    | _, _ => False
  nodes : ∃ nodes, o.parent = parent.extend nodes ∧
    o'.parent = parent'.extend (nodes.map (Node.shift w.start))

theorem Likeness.furtherOn_of_replies {bindings : Bindings} {g : Grammar} {w v : Window}
    {hsize : w.buffer.size < positionBound} {reply reply' : Reply}
    (h : (Likeness.ofWindow bindings g w hsize).Replies v reply reply')
    (parent parent' : NodeBuilder) :
    (Reply.outcome parent reply).FurtherOn w parent parent' (Reply.outcome parent' reply') := by
  rcases reply with e | ⟨rest, nodes⟩ <;> rcases reply' with e' | ⟨rest', nodes'⟩
  · exact ⟨Likeness.results_error.mp h, [], rfl, rfl⟩
  · cases h
  · cases h
  · obtain ⟨-, hrest, hnodes⟩ := h
    obtain rfl := Likeness.eq_map_of_ofWindow_nodes hnodes
    exact ⟨⟨hrest.buffer_eq', hrest.start_eq, hrest.stop_eq⟩, nodes, rfl, rfl⟩

/-- **A window parses like a text of its own.**  Let members of a repertoire have filled one memo
table from the text of `w`, which has fewer characters than there are positions, and another one
from the text that `w` has in view, alone.  A member whose factories ignore spans answers for `w`
what it answers for that text alone, further on by the start of `w`: it halts in the same way, or
leaves the same rest, or fails with the same error, and appends the same nodes.  It answers for the
one if and only if it answers for the other. -/
theorem window_parses_alone {env : Environment} {S : Grammar → Prop}
    (h : Repertoire env.bindings S) {g : Grammar} (hg : S g) (hspans : g.IgnoresSpans env.bindings)
    {w : Window} (hsize : w.buffer.size < positionBound) {s s' : Session}
    (hs : s.Reached env S w.alone.buffer) (hs' : s'.Reached env S w.buffer)
    (parent parent' : NodeBuilder) :
    (∀ r, g.Answers env w.alone parent s r →
      ∃ r', g.Answers env w parent' s' r' ∧ Agree (Outcome.FurtherOn w parent parent') r r') ∧
      ∀ r', g.Answers env w parent' s' r' →
        ∃ r, g.Answers env w.alone parent s r ∧
          Agree (Outcome.FurtherOn w parent parent') r r' := by
  have hkept : (Likeness.ofWindow env.bindings g w hsize).coupling.Kept env.bindings
      env.bindings := Likeness.ofWindow_kept h hg hspans
  have hasks : (Likeness.ofWindow env.bindings g w hsize).coupling.asks g w.alone g w :=
    ⟨⟨rfl, .refl⟩, Likeness.ofWindow_windows⟩
  have hnever : ∀ r : Except Halt Outcome, ¬ Halted (fun _ => False) r := by
    rintro (_ | _) hhalted <;> exact hhalted
  constructor
  · intro r hr
    obtain ⟨r', hr', hcase⟩ :=
      (hkept.answers id h h hg hg hasks hs hs' parent parent' hr).resolve_left (hnever r)
    refine ⟨r', hr', (hcase.resolve_left (hnever r')).mono ?_⟩
    rintro o o' ⟨reply, reply', hreplies, rfl, rfl⟩
    exact Likeness.furtherOn_of_replies hreplies parent parent'
  · intro r' hr'
    obtain ⟨r, hr, hcase⟩ :=
      (hkept.symm.answers id h h hg hg hasks hs' hs parent' parent hr').resolve_left (hnever r')
    refine ⟨r, hr, (hcase.resolve_left (hnever r)).symm.mono ?_⟩
    rintro o o' ⟨reply', reply, hreplies, rfl, rfl⟩
    exact Likeness.furtherOn_of_replies hreplies parent parent'

/-- A letter that has to be followed by others, in a window that ends before them: the fatal error
and its cause are where they are in a text of one letter, one place further on.  The text was parsed
before, and so was the longer window in which the letter is followed by another one. -/
theorem letter_parses_alone :
    let g : Grammar := .memoized ⟨1⟩ (.sequence
      [.exact "a" (some (.text "letter")),
        .require (.memoized ⟨2⟩ (.repetition 1 none (.exact "b" none) (some (.count "rest"))))]
      none)
    let env : Environment := ⟨[], true⟩
    let w : Window := ⟨#['b', 'a', 'b'], 1, 2, by decide, by decide⟩
    let longer : Window := ⟨w.buffer, 1, 3, by decide, by decide⟩
    let s := ((g.consume env 9 w.alone .empty).exec {}).2
    let s' := ((g.consume env 9 longer .empty).exec {}).2
    Repertoire env.bindings (· ∈ g.subgrammars) ∧ g.IgnoresSpans env.bindings ∧
      w.buffer.size < positionBound ∧ s.Reached env (· ∈ g.subgrammars) w.alone.buffer ∧
      s'.Reached env (· ∈ g.subgrammars) w.buffer ∧
      ∃ e after o',
        g.Answers env w.alone .empty s (.ok ⟨.error e, after⟩) ∧ e.position = 1 ∧
          g.Answers env w .empty s' (.ok o') ∧ o'.result = .error (e.shift 1) := by
  intro g env w longer s s'
  have hrep : Repertoire env.bindings (· ∈ g.subgrammars) := .of_nodup (by decide) (by decide)
  have hself : g ∈ g.subgrammars := Grammar.self_mem_subgrammars g
  have hspans : g.IgnoresSpans env.bindings := by
    have hfactories : ∀ rule ∈ g.subgrammars, ∀ f, rule.factory? = some f →
        f = .text "letter" ∨ f = .count "rest" := by
      simp [g, Grammar.subgrammars, Grammar.subgrammarsOf, Grammar.subgrammarsAll,
        Grammar.factory?, Production.factory?]
    intro rule f huses hf text nodes nodes' hnodes
    rcases hfactories rule (hrep.uses hself huses) f hf with rfl | rfl
    · rfl
    · have hlength : nodes.length = nodes'.length := by
        simpa using congrArg List.length hnodes
      show Except.ok (some (Attachment.ofPayload (.int64 nodes.length))) = _
      rw [hlength]
      rfl
  have hsize : w.buffer.size < positionBound := by decide
  have hs : s.Reached env (· ∈ g.subgrammars) w.alone.buffer :=
    .consumed 9 .empty (.fresh rfl) hself rfl
  have hs' : s'.Reached env (· ∈ g.subgrammars) w.buffer :=
    .consumed 9 .empty (.fresh rfl) hself rfl
  obtain ⟨e, after, t, hplain, hposition⟩ : ∃ e after t,
      (g.consume ⟨[], false⟩ 9 (.ofText "a") .empty).exec {} = (.ok ⟨.error e, after⟩, t) ∧
        e.position = 1 := ⟨_, _, _, rfl, rfl⟩
  have halone : w.alone = .ofText "a" := rfl
  have hanswers : g.Answers env w.alone .empty s (.ok ⟨.error e, after⟩) :=
    (hrep.answers_iff_plain hs hself rfl .empty {}).mpr
      ⟨ok_ne_outOfFuel _, 9, halone ▸ congrArg Prod.fst hplain⟩
  obtain ⟨hforth, -⟩ := window_parses_alone hrep hself hspans hsize hs hs' .empty .empty
  obtain ⟨r', hr', hagree⟩ := hforth _ hanswers
  rcases r' with halt | ⟨e' | rest', after'⟩
  · cases hagree
  · obtain rfl : e' = e.shift 1 := hagree.result
    exact ⟨hrep, hspans, hsize, hs, hs', e, after, _, hanswers, hposition, hr', rfl⟩
  · exact absurd hagree.result id

end Packrat
