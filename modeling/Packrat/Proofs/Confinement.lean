import Packrat.Proofs.MemoTransparency

/-! # Parsing stays in its window

A combinator looks at nothing but its window and never breaks a precondition on its way.  What it
leaves is the rest of its window, the nodes it makes span positions of the window, at every depth,
and its errors are about positions of the window, with all their causes.  It halts only if there is
not enough fuel or if the factory of a rule breaks off (`Grammar.MayHalt`).

That is so of one combinator if it is so of what it asks (`Grammar.plan_confines`), and therefore of
all of a repertoire, also where a result comes out of the memo table (`consume_confined`).
-/
namespace Packrat

/-- The node and all nodes below it span positions from `lo` to `hi`. -/
inductive Node.Within (lo hi : Nat) : Node → Prop
  | node {start stop : Nat} {value : Option String} {attachment : Option Attachment}
      {children : List Node} :
      lo ≤ start → start ≤ stop → stop ≤ hi → (∀ child ∈ children, child.Within lo hi) →
      Within lo hi ⟨some ⟨start, stop⟩, value, attachment, children⟩

/-- The error and all its causes are about positions from `lo` to `hi`. -/
inductive ParseError.Within (lo hi : Nat) : ParseError → Prop
  | error {e : ParseError} :
      lo ≤ e.position → e.position ≤ hi →
      (∀ cause, e.cause = some cause → cause.Within lo hi) → Within lo hi e

namespace Node.Within

variable {lo hi lo' hi' : Nat} {node other : Node}

theorem mono (h : node.Within lo hi) (hlo : lo' ≤ lo) (hhi : hi ≤ hi') : node.Within lo' hi' := by
  induction h with
  | node hstart hle hstop _ ih =>
    exact .node (Nat.le_trans hlo hstart) hle (Nat.le_trans hstop hhi) ih

theorem children (h : node.Within lo hi) : ∀ child ∈ node.children, child.Within lo hi := by
  cases h with
  | node _ _ _ hchildren => exact hchildren

theorem reattached (h : node.Within lo hi) (hsame : node.Reattached other) :
    other.Within lo hi := by
  obtain ⟨span, value, attachment, children⟩ := other
  obtain ⟨rfl, -, rfl⟩ := hsame
  cases h with
  | node hstart hle hstop hchildren => exact .node hstart hle hstop hchildren

theorem forall_reattached {nodes out : List Node} (hsame : List.Forall₂ Node.Reattached nodes out)
    (h : ∀ node ∈ nodes, node.Within lo hi) : ∀ node ∈ out, node.Within lo hi := by
  induction hsame with
  | nil => exact nofun
  | cons hfirst _ ih =>
    intro node hnode
    rcases List.mem_cons.mp hnode with rfl | hnode
    · exact (h _ (.head _)).reattached hfirst
    · exact ih (fun other hother => h other (.tail _ hother)) node hnode

/-- A node over part of a window, with children from all over it. -/
theorem of_taken {w rest : Window} (hc : w.Continues rest) {value : Option String}
    {attachment : Option Attachment} {children : List Node}
    (hchildren : ∀ child ∈ children, child.Within w.start w.stop) :
    Within w.start w.stop ⟨some ⟨w.start, rest.start⟩, value, attachment, children⟩ :=
  .node (Nat.le_refl _) hc.start_le hc.start_le_stop hchildren

end Node.Within

namespace ParseError.Within

variable {lo hi lo' hi' : Nat} {e : ParseError}

theorem mono (h : e.Within lo hi) (hlo : lo' ≤ lo) (hhi : hi ≤ hi') : e.Within lo' hi' := by
  induction h with
  | error hposition hle _ ih =>
    exact .error (Nat.le_trans hlo hposition) (Nat.le_trans hle hhi) ih

theorem withContext (h : e.Within lo hi) (frame : String) : (e.withContext frame).Within lo hi := by
  obtain ⟨hposition, hle, hcause⟩ := h
  refine .error ?_ ?_ fun cause hc => hcause cause ?_ <;> cases e <;> assumption

/-- An error that is made fatal becomes the cause of one at the same place. -/
theorem escalate (h : e.Within lo hi) : e.escalate.Within lo hi := by
  obtain ⟨hposition, hle, -⟩ := id h
  rw [ParseError.escalate]
  split
  · refine .error hposition hle fun cause hc => ?_
    rw [← Option.some.inj hc]
    exact h
  · exact h

/-- An error without a cause at the start of a window. -/
theorem of_start {w : Window} (hposition : e.position = w.start) (hcause : e.cause = none) :
    e.Within w.start w.stop := by
  refine .error (Nat.le_of_eq hposition.symm) ?_ fun cause hc => ?_
  · rw [hposition]
    exact w.start_le
  · rw [hcause] at hc
    cases hc

end ParseError.Within

/-! ## What a combinator keeps -/

/-- The nodes were made in the window, up to `rest`. -/
def Confined (w rest : Window) (nodes : List Node) : Prop :=
  w.Continues rest ∧ ∀ node ∈ nodes, node.Within w.start w.stop

/-- The error is about positions of the window. -/
def Placed (w : Window) (e : ParseError) : Prop := e.Within w.start w.stop

theorem gathers_confined : Gathers Confined Placed where
  nil w := ⟨.refl w, nofun⟩
  append := by
    rintro w rest rest' nodes more ⟨hc, hnodes⟩ ⟨hc', hmore⟩
    refine ⟨hc.trans hc', fun node hnode => ?_⟩
    rcases List.mem_append.mp hnode with hnode | hnode
    · exact hnodes node hnode
    · exact (hmore node hnode).mono hc.start_le (Nat.le_of_eq hc.stop_eq)
  continues h := h.1
  later hc he := he.mono hc.start_le (Nat.le_of_eq hc.stop_eq)
  mismatch _ _ := .of_start rfl rfl
  noAlternative _ := .of_start rfl rfl
  context frame he := he.withContext frame

/-- The reply stays in the window. -/
abbrev Reply.Confined (w : Window) (reply : Reply) : Prop :=
  reply.Gathered Packrat.Confined Placed w

namespace Production

/-- The nodes that are given to the parent stay in the window. -/
theorem given_within (production : Production) {lo hi : Nat} {me : Node} (h : me.Within lo hi) :
    ∀ node ∈ production.given me, node.Within lo hi := by
  cases production with
  | lift body factory =>
    intro node hnode
    obtain ⟨child, hchild, hnode⟩ := List.mem_flatMap.mp hnode
    exact (h.children child hchild).children node hnode
  | _ =>
    intro node hnode
    rw [List.mem_singleton.mp hnode]
    exact h

theorem handed_within {production : Production} {lo hi : Nat} {me : Node} {nodes : List Node}
    (h : me.Within lo hi) (hhanded : production.handed me = .ok nodes) :
    ∀ node ∈ nodes, node.Within lo hi :=
  Node.Within.forall_reattached (handed_eq_ok hhanded) (production.given_within h)

/-- The finished node and the rest stay in the window. -/
theorem finished_confined (production : Production) {input rest : Window} {nodes : List Node}
    (h : Confined input rest nodes) (attachment : Option Attachment) :
    Confined input (production.finished input rest nodes attachment).1
      [(production.finished input rest nodes attachment).2] := by
  obtain ⟨hc, hnodes⟩ := h
  cases production with
  | join joint body factory =>
    refine ⟨hc, fun node hnode => ?_⟩
    rw [List.mem_singleton.mp hnode]
    exact .of_taken hc nofun
  | preserve body factory =>
    -- The children reach beyond the node, which spans nothing, but not beyond the window.
    refine ⟨.refl input, fun node hnode => ?_⟩
    rw [List.mem_singleton.mp hnode]
    exact .of_taken (.refl input) hnodes
  | _ =>
    refine ⟨hc, fun node hnode => ?_⟩
    rw [List.mem_singleton.mp hnode]
    exact .of_taken hc hnodes

end Production

namespace Grammar

/-- The factory of a grammar that makes a node of its own. -/
def factory? : Grammar → Option Factory
  | exact _ factory => factory
  | charRun _ _ _ factory => factory
  | memoized _ production => production.factory?
  | _ => none

variable {bindings : Bindings} {allowed : Halt → Prop} {factory : Option Factory} {input : Window}

theorem leafReply_confined (ht : Tolerates allowed factory) {stop : Nat} (value : String)
    (hstart : input.start ≤ stop) (hstop : stop ≤ input.stop) :
    Guards allowed (Reply.Confined input)
      ((leafReply input stop value factory).mapError .violation) := by
  obtain ⟨rest, hrest, hc, rfl⟩ := Window.exists_advance_eq hstart hstop
  rw [leafReply, hrest, ok_bind]
  refine guards_bind (Production.tolerates_createWith ht value []) fun attachment => ⟨hc, ?_⟩
  intro node hnode
  rw [List.mem_singleton.mp hnode]
  exact .of_taken hc (List.forall_mem_nil _)

theorem exactReply_confined (ht : Tolerates allowed factory) (token : String)
    (hsize : input.buffer.size < positionBound) :
    Guards allowed (Reply.Confined input)
      ((exactReply token factory input).mapError .violation) := by
  rw [exactReply]
  split
  · obtain ⟨hlength, -⟩ := Window.startsWith_token ‹_›
    rw [Window.addPosition_eq hsize hlength, ok_bind]
    exact leafReply_confined ht token (Nat.le_add_right ..) (Window.add_le_stop hlength)
  · exact .of_start rfl rfl

theorem charRunReply_confined (ht : Tolerates allowed factory) (min : Nat) (max : Option Nat)
    (cls : CharClass) (hsize : input.buffer.size < positionBound) :
    Guards allowed (Reply.Confined input)
      ((charRunReply min max cls factory input).mapError .violation) := by
  rw [charRunReply]
  split
  · exact .of_start rfl rfl
  · have hlength := input.runLength_le cls.contains (max.getD input.length)
    rw [Window.text_eq hsize hlength, ok_bind, Window.addPosition_eq hsize hlength, ok_bind]
    exact leafReply_confined ht _ (Nat.le_add_right ..) (Window.add_le_stop hlength)

theorem endReply_confined (input : Window) : (endReply input).Confined input := by
  rw [endReply]
  split
  · exact ⟨.refl input, List.forall_mem_nil _⟩
  · exact .of_start rfl rfl

theorem replacedReply_confined (translator : Translator) {rest : Window} {nodes : List Node}
    (h : Confined input rest nodes) :
    Guards allowed (Reply.Confined input)
      ((replacedReply translator input rest nodes).mapError .violation) := by
  obtain ⟨hc, hnodes⟩ := h
  have hmade : ∀ node ∈ nodes, ∀ value : Option String, Confined input rest
      [{ node with span := some ⟨input.start, rest.start⟩, value }] := by
    refine fun node hnode value => ⟨hc, fun other hother => ?_⟩
    rw [List.mem_singleton.mp hother]
    exact .of_taken hc (hnodes node hnode).children
  match nodes, hmade with
  | [node], hmade =>
    rw [replacedReply]
    cases node.value with
    | some value => exact hmade node (.head _) _
    | none =>
      rw [hc.slice_eq, ok_bind]
      exact hmade node (.head _) _
  | [], _ => exact .of_start rfl rfl
  | _ :: _ :: _, _ => exact .of_start rfl rfl

/-- **A combinator stays in its window if what it asks does.** -/
theorem plan_confines {g : Grammar} (hg : g.isCombinator) (input : Window)
    (ht : Tolerates allowed g.factory?) (hfuel : allowed .outOfFuel)
    (hsize : input.buffer.size + 1 < positionBound)
    (hbounds : ∀ id min bound body factory,
      g = .memoized id (.repetition min (some bound) body factory) → bound < positionBound) :
    (g.plan bindings input).Meets
      (fun h w => g.Mentions bindings h ∧ w.buffer = input.buffer)
      (fun _ w reply => reply.Confined w) (Guards allowed (Reply.Confined input)) := by
  have hfewer : input.buffer.size < positionBound := by omega
  cases g with
  | exact token factory => exact exactReply_confined ht token hfewer
  | charRun min max cls factory => exact charRunReply_confined ht min max cls hfewer
  | endOfInput => exact endReply_confined input
  | skip body =>
    refine ⟨⟨.inl (.head _), rfl⟩, fun reply hr => ?_⟩
    rcases reply with e | ⟨rest, nodes⟩
    · exact hr
    · exact ⟨hr.1, nofun⟩
  | require body =>
    refine ⟨⟨.inl (.head _), rfl⟩, fun reply hr => ?_⟩
    rcases reply with e | ⟨rest, nodes⟩
    · exact ParseError.Within.escalate hr
    · exact hr
  | group name body =>
    refine ⟨⟨.inl (.head _), rfl⟩, fun reply hr => ?_⟩
    rcases reply with e | ⟨rest, nodes⟩
    · exact ParseError.Within.withContext hr name
    · exact hr
  | replace translator body =>
    refine ⟨⟨.inl (.head _), rfl⟩, fun reply hr => ?_⟩
    rcases reply with e | ⟨rest, nodes⟩
    · exact hr
    · exact replacedReply_confined translator hr
  | reference name =>
    rw [plan]
    cases htarget : bindings.target? name with
    | none => exact .of_start rfl rfl
    | some target => exact ⟨⟨.inr ⟨name, rfl, htarget⟩, rfl⟩, fun reply hr => hr⟩
  | memoized id production =>
    have hcount : production.CountsIn input := by
      cases production with
      | repetition min max body factory =>
        cases max with
        | none => exact ⟨Nat.le_refl _, hsize⟩
        | some bound =>
          have hbound := hbounds id min bound body factory rfl
          exact ⟨by simp, hbound⟩
      | _ => trivial
    refine ((production.plan_gathers gathers_confined input (fun _ _ _ _ h => h) ht hfuel
      (.inl hcount)).mono (fun h w hm => ⟨.inl hm.1, hm.2.buffer_eq⟩) (fun _ _ _ _ h => h)
      fun _ h => h).andThen ?_ fun _ h => h
    rintro (e | made) hmade
    · exact hmade
    · obtain ⟨rest, nodes, attachment, rfl, hnodes⟩ := hmade
      obtain ⟨hc, hme⟩ := production.finished_confined hnodes attachment
      refine guards_mapError.mpr ⟨fun reply hreply => ?_, fun v hv => ?_⟩
      · obtain ⟨nodes, hhanded, rfl⟩ := map_eq_ok.mp hreply
        exact ⟨hc, Production.handed_within (hme _ (.head _)) hhanded⟩
      · obtain ⟨f, text, children, hf, hcreate⟩ := Production.handed_eq_error (map_eq_error.mp hv)
        exact ht f text children v hf hcreate
  | windowed size body =>
    obtain ⟨inner, hn⟩ := input.exists_narrow_eq size
    have hi := Window.encloses_of_narrow hn
    rw [plan, hn]
    refine ⟨⟨.inl (.head _), hi.buffer_eq⟩, fun reply hr => ?_⟩
    rcases reply with e | ⟨rest, nodes⟩
    · exact ParseError.Within.mono hr hi.start_le hi.stop_le
    · obtain ⟨hc, hnodes⟩ := hr
      have hstart := Nat.le_trans hi.start_le hc.start_le
      have hstop := Nat.le_trans hc.start_le_stop hi.stop_le
      obtain ⟨rest', hadvance, hc', -⟩ := Window.exists_advance_eq hstart hstop
      dsimp only
      rw [hadvance]
      exact ⟨hc', fun node hnode => (hnodes node hnode).mono hi.start_le hi.stop_le⟩
  | counted name body => cases hg
  | once flag first later => cases hg
  | fail error => cases hg

/-- How a grammar may halt: for want of fuel, or because the factory of one of its rules breaks
off. -/
inductive MayHalt (bindings : Bindings) (g : Grammar) : Halt → Prop
  | outOfFuel : MayHalt bindings g .outOfFuel
  | brokenOff {rule : Grammar} {f : Factory} {text : Option String} {nodes : List Node}
      {v : Violation} :
      g.Uses bindings rule → rule.factory? = some f → f.create text nodes = .error v →
      MayHalt bindings g (.violation v)

/-- The bounds of all repetitions are positions. -/
def BoundsFit (bindings : Bindings) (g : Grammar) : Prop :=
  ∀ id min bound body factory,
    g.Uses bindings (.memoized id (.repetition min (some bound) body factory)) →
    bound < positionBound

end Grammar

/-- What a member of a repertoire replies stays in its window. -/
theorem Repertoire.settles_confined {bindings : Bindings} {S : Grammar → Prop}
    (h : Repertoire bindings S) {g : Grammar} (hg : S g) {w : Window}
    (hsize : w.buffer.size + 1 < positionBound) (hbounds : g.BoundsFit bindings)
    {r : Except Halt Reply} (hs : Settles bindings (g.plan bindings w) r) :
    Guards (g.MayHalt bindings) (Reply.Confined w) r := by
  -- The invariant of all questions: what is asked is a rule of `g`, and looks at the same text.
  have hplan : ∀ rule w', g.Uses bindings rule ∧ w'.buffer = w.buffer →
      (rule.plan bindings w').Meets (fun h w'' => g.Uses bindings h ∧ w''.buffer = w.buffer)
        (fun _ w reply => reply.Confined w) (Guards (g.MayHalt bindings) (Reply.Confined w')) := by
    rintro rule w' ⟨huses, hw⟩
    have ht : Tolerates (g.MayHalt bindings) rule.factory? :=
      fun f text nodes v hf hcreate => .brokenOff huses hf hcreate
    have hfits : ∀ id min bound body factory,
        rule = .memoized id (.repetition min (some bound) body factory) →
        bound < positionBound := by
      rintro id min bound body factory rfl
      exact hbounds id min bound body factory huses
    refine (Grammar.plan_confines (h.isCombinator rule (h.uses hg huses)) w' ht .outOfFuel
      (hw ▸ hsize) hfits).mono ?_ (fun _ _ _ _ hr => hr) fun _ hr => hr
    rintro h' w'' ⟨hm, hw'⟩
    exact ⟨huses.tail hm, hw'.trans hw⟩
  exact hs.guards hplan (hplan g w ⟨.refl, rfl⟩) fun _ hh => hh

/-- **Parsing never leaves its window and breaks no precondition.**  Let members of a repertoire
have filled the table of `s` from the text of `w`, which has fewer characters than there are
positions.
Whatever the minimum and the bound of its repetitions are, a member halts only for want of fuel or
because the factory of one of its rules breaks off.  What it leaves is the rest of the window, each
node that it appends spans positions of the window, and so does each node below; and its error, with
each of its causes, is about a position of the window. -/
theorem consume_confined {env : Environment} {S : Grammar → Prop} (h : Repertoire env.bindings S)
    {w : Window} {s : Session} (hs : s.Reached env S w.buffer) {g : Grammar} (hg : S g)
    (hsize : w.buffer.size + 1 < positionBound) (hbounds : g.BoundsFit env.bindings)
    {fuel : Nat} {parent : NodeBuilder} {s' : Session} {r : Except Halt Outcome}
    (hexec : (g.consume env fuel w parent).exec s = (r, s')) :
    match r with
    | .error halt => g.MayHalt env.bindings halt
    | .ok ⟨.ok rest, after⟩ =>
      (rest.buffer = w.buffer ∧ rest.stop = w.stop ∧ w.start ≤ rest.start ∧ rest.start ≤ w.stop) ∧
        ∃ nodes, after = parent.extend nodes ∧ ∀ node ∈ nodes, node.Within w.start w.stop
    | .ok ⟨.error e, after⟩ => after = parent ∧ e.Within w.start w.stop := by
  obtain ⟨r', s₁, hexec', hsettles, -⟩ :=
    h.consume_exec hg rfl fuel parent (h.valid_of_reached hs)
  obtain ⟨rfl, -⟩ := Prod.mk.inj (hexec.symm.trans hexec')
  rcases hsettles with rfl | hsettles
  · exact .outOfFuel
  · have hconfined := h.settles_confined hg hsize hbounds hsettles
    rcases r' with halt | e | ⟨rest, nodes⟩
    · exact hconfined
    · exact ⟨rfl, hconfined⟩
    · obtain ⟨hc, hnodes⟩ := hconfined
      exact ⟨⟨hc.buffer_eq, hc.stop_eq, hc.start_le, hc.start_le_stop⟩, nodes, rfl, hnodes⟩

/-- A list of two letters, after the list of the second one was looked for: the rest ends at the
place 2, and the node lies in front of it. -/
theorem letters_confined :
    let env : Environment := ⟨Letters.bindings, true⟩
    let w := Window.ofText "aa"
    let behind : Window := ⟨w.buffer, 1, 2, by decide, by decide⟩
    let s := ((Letters.list.consume env 9 behind .empty).exec {}).2
    Repertoire env.bindings (· ∈ Letters.grammars) ∧
      s.Reached env (· ∈ Letters.grammars) w.buffer ∧ Letters.list ∈ Letters.grammars ∧
      w.buffer.size + 1 < positionBound ∧ Letters.list.BoundsFit env.bindings ∧
      ∃ fuel rest after s',
        (Letters.list.consume env fuel w .empty).exec s = (.ok ⟨.ok rest, after⟩, s') ∧
          after.children.size = 1 ∧ rest.stop = 2 ∧ rest.start ≤ 2 ∧
          ∃ nodes, after = NodeBuilder.empty.extend nodes ∧ ∀ node ∈ nodes, node.Within 0 2 := by
  intro env w behind s
  have hrep : Repertoire env.bindings (· ∈ Letters.grammars) := Letters.repertoire
  have hg : Letters.list ∈ Letters.grammars := .head _
  have hs : s.Reached env (· ∈ Letters.grammars) w.buffer := .consumed 9 .empty (.fresh rfl) hg rfl
  have hsize : w.buffer.size + 1 < positionBound := by decide
  have hbounds : Letters.list.BoundsFit env.bindings := by
    intro id min bound body factory hu
    have hmem := hrep.uses hg hu
    simp [Letters.grammars, Letters.list, Letters.more, Letters.nil] at hmem
  obtain ⟨rest, after, t, hplain, hone⟩ : ∃ rest after t,
      (Letters.list.consume ⟨Letters.bindings, false⟩ 9 w .empty).exec {} =
        (.ok ⟨.ok rest, after⟩, t) ∧ after.children.size = 1 := ⟨_, _, _, rfl, rfl⟩
  obtain ⟨fuel, s', hexec⟩ := Letters.repertoire.exists_exec_of_plain hs hg rfl hplain
  obtain ⟨⟨-, hstop, -, hstart⟩, hnodes⟩ := consume_confined hrep hs hg hsize hbounds hexec
  exact ⟨hrep, hs, hg, hsize, hbounds, fuel, rest, after, s', hexec, hone, hstop, hstart, hnodes⟩

end Packrat
