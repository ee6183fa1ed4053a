import Packrat.Proofs.Confinement
import Packrat.Proofs.InStep
import Packrat.Proofs.Relabelling

/-! # Grammars alike on texts alike

One run consumes windows on a text, the other one windows on a longer text that holds the first one
from some place on; the grammars of the two runs are built alike but for their factories and their
identities.  A `Likeness` says what is compared and how: which grammars are alike, where the one
text stands in the other, and what is kept of an attachment when nodes are compared.

Then the plans of grammars alike are in step (`Likeness.plan_inStep`).  Whatever a combinator does
with positions, it does in the same way `offset` places further on, and nothing of what it looks at
lies outside its window.  Attachments are made and handed on, but never looked at on the way.
-/
namespace Packrat

/-! ## Grammars built alike -/

/-- The productions are of one kind, with the same numbers and texts, and with parts that are
pairs.  Their factories may be different. -/
inductive Production.Counterparts (pairs : Grammar → Grammar → Prop) :
    Production → Production → Prop
  | sequence {parts parts' : List Grammar} (factory factory' : Option Factory) :
      List.Forall₂ pairs parts parts' →
      Counterparts pairs (.sequence parts factory) (.sequence parts' factory')
  | choice {branches branches' : List Grammar} (factory factory' : Option Factory) :
      List.Forall₂ pairs branches branches' →
      Counterparts pairs (.choice branches factory) (.choice branches' factory')
  | repetition (min : Nat) (max : Option Nat) {body body' : Grammar}
      (factory factory' : Option Factory) : pairs body body' →
      Counterparts pairs (.repetition min max body factory) (.repetition min max body' factory')
  | lift {body body' : Grammar} (factory factory' : Option Factory) : pairs body body' →
      Counterparts pairs (.lift body factory) (.lift body' factory')
  | join (joint : String) {body body' : Grammar} (factory factory' : Option Factory) :
      pairs body body' → Counterparts pairs (.join joint body factory) (.join joint body' factory')
  | preserve {body body' : Grammar} (factory factory' : Option Factory) : pairs body body' →
      Counterparts pairs (.preserve body factory) (.preserve body' factory')

/-- The combinators are of one kind, with the same numbers and texts, and what they mention are
pairs.  Their factories and identities may be different. -/
inductive Grammar.Counterparts (bindings bindings' : Bindings) (pairs : Grammar → Grammar → Prop) :
    Grammar → Grammar → Prop
  | exact (token : String) (factory factory' : Option Factory) :
      Counterparts bindings bindings' pairs (.exact token factory) (.exact token factory')
  | charRun (min : Nat) (max : Option Nat) (cls : CharClass) (factory factory' : Option Factory) :
      Counterparts bindings bindings' pairs (.charRun min max cls factory)
        (.charRun min max cls factory')
  | endOfInput : Counterparts bindings bindings' pairs .endOfInput .endOfInput
  | skip {body body' : Grammar} : pairs body body' →
      Counterparts bindings bindings' pairs (.skip body) (.skip body')
  | require {body body' : Grammar} : pairs body body' →
      Counterparts bindings bindings' pairs (.require body) (.require body')
  | group (name : String) {body body' : Grammar} : pairs body body' →
      Counterparts bindings bindings' pairs (.group name body) (.group name body')
  | replace (translator : Translator) {body body' : Grammar} : pairs body body' →
      Counterparts bindings bindings' pairs (.replace translator body) (.replace translator body')
  | reference (name : String) :
      Option.Rel pairs (bindings.target? name) (bindings'.target? name) →
      Counterparts bindings bindings' pairs (.reference name) (.reference name)
  | memoized (id id' : ConsumerId) {production production' : Production} :
      production.Counterparts pairs production' →
      Counterparts bindings bindings' pairs (.memoized id production) (.memoized id' production')
  | windowed (size : Nat) {body body' : Grammar} : pairs body body' →
      Counterparts bindings bindings' pairs (.windowed size body) (.windowed size body')

section Counterparts

variable {pairs pairs' : Grammar → Grammar → Prop}

/-- Only the parts have to be pairs. -/
theorem Production.Counterparts.imp {production production' : Production}
    (h : production.Counterparts pairs production')
    (hpairs : ∀ a ∈ production.parts, ∀ a' ∈ production'.parts, pairs a a' → pairs' a a') :
    production.Counterparts pairs' production' := by
  have hlist : ∀ parts parts' : List Grammar, List.Forall₂ pairs parts parts' →
      (∀ a ∈ parts, ∀ a' ∈ parts', pairs a a' → pairs' a a') →
      List.Forall₂ pairs' parts parts' := by
    intro parts parts' hparts himp
    obtain ⟨hlength, hzip⟩ := List.forall₂_iff_zip.mp hparts
    refine List.forall₂_iff_zip.mpr ⟨hlength, fun {a a'} hmem => ?_⟩
    obtain ⟨ha, ha'⟩ := List.of_mem_zip hmem
    exact himp a ha a' ha' (hzip hmem)
  cases h with
  | sequence factory factory' hparts => exact .sequence _ _ (hlist _ _ hparts hpairs)
  | choice factory factory' hbranches => exact .choice _ _ (hlist _ _ hbranches hpairs)
  | repetition min max factory factory' hbody =>
    exact .repetition _ _ _ _ (hpairs _ (.head _) _ (.head _) hbody)
  | lift factory factory' hbody => exact .lift _ _ (hpairs _ (.head _) _ (.head _) hbody)
  | join joint factory factory' hbody => exact .join _ _ _ (hpairs _ (.head _) _ (.head _) hbody)
  | preserve factory factory' hbody => exact .preserve _ _ (hpairs _ (.head _) _ (.head _) hbody)

/-- Only what is mentioned has to be pairs. -/
theorem Grammar.Counterparts.imp {bindings bindings' : Bindings} {g g' : Grammar}
    (h : g.Counterparts bindings bindings' pairs g')
    (hpairs : ∀ a a', g.Mentions bindings a → g'.Mentions bindings' a' → pairs a a' →
      pairs' a a') : g.Counterparts bindings bindings' pairs' g' := by
  cases h with
  | exact token factory factory' => exact .exact token factory factory'
  | charRun min max cls factory factory' => exact .charRun min max cls factory factory'
  | endOfInput => exact .endOfInput
  | skip hbody => exact .skip (hpairs _ _ (.inl (.head _)) (.inl (.head _)) hbody)
  | require hbody => exact .require (hpairs _ _ (.inl (.head _)) (.inl (.head _)) hbody)
  | group name hbody => exact .group name (hpairs _ _ (.inl (.head _)) (.inl (.head _)) hbody)
  | replace translator hbody =>
    exact .replace translator (hpairs _ _ (.inl (.head _)) (.inl (.head _)) hbody)
  | reference name htargets =>
    refine .reference name ?_
    generalize ht : bindings.target? name = target at htargets ⊢
    generalize ht' : bindings'.target? name = target' at htargets ⊢
    cases htargets with
    | none => exact .none
    | some hpair => exact .some (hpairs _ _ (.inr ⟨name, rfl, ht⟩) (.inr ⟨name, rfl, ht'⟩) hpair)
  | memoized id id' hproduction =>
    exact .memoized id id' (hproduction.imp fun a ha a' ha' => hpairs a a' (.inl ha) (.inl ha'))
  | windowed size hbody => exact .windowed size (hpairs _ _ (.inl (.head _)) (.inl (.head _)) hbody)

end Counterparts

/-! ## What is alike -/

/-- What two runs have in common. -/
structure Likeness where
  /-- The grammars that are alike. -/
  pairs : Grammar → Grammar → Prop
  /-- The text of the first run. -/
  part : Array Char
  /-- The text of the second run. -/
  whole : Array Char
  /-- The place of the first text in the second one. -/
  offset : Nat
  /-- What is compared of an attachment. -/
  keep : Option Attachment → Option Attachment
  /-- How the first run may be broken off on its own. -/
  left : Halt → Prop
  /-- How the second run may be broken off on its own. -/
  right : Halt → Prop
  fits : offset + part.size ≤ whole.size
  extract_eq : whole.extract offset (offset + part.size) = part
  /-- The places further on are positions too. -/
  positions : offset = 0 ∨ whole.size < positionBound

namespace Likeness

variable (x : Likeness)

/-- The second window shows in the whole text what the first one shows in the part. -/
structure Windows (w w' : Window) : Prop where
  buffer_eq : w.buffer = x.part
  buffer_eq' : w'.buffer = x.whole
  start_eq : w'.start = w.start + x.offset
  stop_eq : w'.stop = w.stop + x.offset

/-- A node of the first run, as it is compared. -/
def near (node : Node) : Node := node.relabel (Option.map (Span.shift x.offset)) x.keep

/-- A node of the second run, as it is compared. -/
def far (node : Node) : Node := node.relabel id x.keep

/-- The nodes are alike, one by one. -/
def Nodes (nodes nodes' : List Node) : Prop := nodes.map x.near = nodes'.map x.far

/-- `E` holds of the results, or the second error is the first one, further on. -/
def Results {α β : Type} (E : α → β → Prop) : Except ParseError α → Except ParseError β → Prop
  | .ok a, .ok b => E a b
  | .error e, .error e' => e' = e.shift x.offset
  | _, _ => False

/-- The replies leave windows alike, further on than `w`, and nodes alike. -/
def Replies (w : Window) : Reply → Reply → Prop :=
  x.Results fun a b => w.Continues a.1 ∧ x.Windows a.1 b.1 ∧ x.Nodes a.2 b.2

/-- The productions leave windows alike, further on than `w`, and have made nodes alike. -/
def Made (w : Window) :
    Except ParseError (Window × Node) → Except ParseError (Window × Node) → Prop :=
  x.Results fun a b => w.Continues a.1 ∧ x.Windows a.1 b.1 ∧ x.Nodes [a.2] [b.2]

/-- Grammars alike are asked about windows alike, and answer alike. -/
def coupling : Coupling where
  asks g w g' w' := x.pairs g g' ∧ x.Windows w w'
  replies w _ := x.Replies w
  left := x.left
  right := x.right

/-- The factories make attachments alike of nodes alike: they are one factory that cannot tell the
nodes apart, or nothing is compared of attachments and each may break off its own run. -/
def Factories (factory factory' : Option Factory) : Prop :=
  (factory = factory' ∧ ∀ f, factory = some f → ∀ text nodes nodes', x.Nodes nodes nodes' →
      f.create text nodes = f.create text nodes') ∨
    ((∀ a b, x.keep a = x.keep b) ∧ Tolerates x.left factory ∧ Tolerates x.right factory')

variable {x}

/-! ### Nodes -/

theorem nodes_singleton {node node' : Node} :
    x.Nodes [node] [node'] ↔ x.near node = x.far node' := by
  rw [Nodes, List.map_singleton, List.map_singleton, List.singleton_inj]

theorem nodes_cons {node node' : Node} {nodes nodes' : List Node} :
    x.Nodes (node :: nodes) (node' :: nodes') ↔ x.Nodes [node] [node'] ∧ x.Nodes nodes nodes' := by
  rw [nodes_singleton, Nodes, List.map_cons, List.map_cons, List.cons.injEq, Nodes]

namespace Nodes

variable {nodes nodes' more more' : List Node} {node node' : Node}

theorem nil : x.Nodes [] [] := rfl

theorem append (h : x.Nodes nodes nodes') (h' : x.Nodes more more') :
    x.Nodes (nodes ++ more) (nodes' ++ more') := by
  rw [Nodes, List.map_append, List.map_append, h, h']

theorem length_eq (h : x.Nodes nodes nodes') : nodes'.length = nodes.length := by
  simpa using (congrArg List.length h).symm

theorem joinValues_eq (h : x.Nodes nodes nodes') (joint : String) :
    Node.joinValues joint nodes' = Node.joinValues joint nodes := by
  have hjoined := congrArg (Node.joinValues joint) h
  rw [show x.near = Node.relabel _ _ from rfl, show x.far = Node.relabel _ _ from rfl,
    Node.joinValues_relabel, Node.joinValues_relabel] at hjoined
  exact hjoined.symm

theorem value_eq (h : x.Nodes [node] [node']) : node'.value = node.value := by
  have hvalue := congrArg Node.value (nodes_singleton.mp h)
  rw [near, far, Node.value_relabel, Node.value_relabel] at hvalue
  exact hvalue.symm

theorem keep_eq (h : x.Nodes [node] [node']) :
    x.keep node.attachment = x.keep node'.attachment := by
  have hkeep := congrArg Node.attachment (nodes_singleton.mp h)
  rwa [near, far, Node.attachment_relabel, Node.attachment_relabel] at hkeep

theorem children (h : x.Nodes [node] [node']) : x.Nodes node.children node'.children := by
  have hchildren := congrArg Node.children (nodes_singleton.mp h)
  rwa [near, far, Node.children_relabel, Node.children_relabel] at hchildren

/-- The children of nodes alike are alike. -/
theorem flatMap_children (h : x.Nodes nodes nodes') :
    x.Nodes (nodes.flatMap (·.children)) (nodes'.flatMap (·.children)) := by
  have hall := congrArg (List.flatMap (·.children)) h
  simp only [List.flatMap_map, near, far, Node.children_relabel] at hall
  rw [Nodes, List.map_flatMap, List.map_flatMap]
  exact hall

/-- Nodes alike with attachments alike in the place of their own. -/
theorem reattached (h : x.Nodes [node] [node']) {attachment attachment' : Option Attachment}
    (hkeep : x.keep attachment = x.keep attachment') :
    x.Nodes [{ node with attachment }] [{ node' with attachment := attachment' }] := by
  obtain ⟨span, value, _, children⟩ := node
  obtain ⟨span', value', _, children'⟩ := node'
  rw [nodes_singleton, near, far, Node.relabel_mk, Node.relabel_mk, Node.mk.injEq] at h ⊢
  exact ⟨h.1, h.2.1, hkeep, h.2.2.2⟩

/-- Nodes around nodes alike. -/
theorem mk {span span' : Span} (hspan : span' = span.shift x.offset) (value : Option String)
    {attachment attachment' : Option Attachment} (hkeep : x.keep attachment = x.keep attachment')
    (h : x.Nodes nodes nodes') :
    x.Nodes [⟨some span, value, attachment, nodes⟩] [⟨some span', value, attachment', nodes'⟩] := by
  rw [nodes_singleton, near, far, Node.relabel_mk, Node.relabel_mk, hkeep, hspan]
  exact congrArg (Node.mk _ _ _) h

end Nodes

section Reattaching

variable {nodes out : List Node} (hkeep : ∀ a b, x.keep a = x.keep b)
  (h : List.Forall₂ Node.Reattached nodes out)
include hkeep h

theorem map_relabel_eq_of_reattached (onSpan : Option Span → Option Span) :
    out.map (Node.relabel onSpan x.keep) = nodes.map (Node.relabel onSpan x.keep) := by
  induction h with
  | nil => rfl
  | @cons m n _ _ hfirst _ ih =>
    obtain ⟨span, value, attachment, children⟩ := m
    obtain ⟨span', value', attachment', children'⟩ := n
    obtain ⟨rfl, rfl, rfl⟩ := hfirst
    rw [List.map_cons, List.map_cons, ih, Node.relabel_mk, Node.relabel_mk, hkeep attachment]

end Reattaching

/-! ### Windows -/

namespace Windows

variable {w w' rest rest' : Window} (h : x.Windows w w')
include h

theorem length_eq : w'.length = w.length := by
  have hstart := h.start_eq
  have hstop := h.stop_eq
  rw [Window.length, Window.length]
  omega

theorem isEmpty_eq : w'.isEmpty = w.isEmpty := by
  have hstart := h.start_eq
  have hstop := h.stop_eq
  rw [Bool.eq_iff_iff, Window.isEmpty, Window.isEmpty, beq_iff_eq, beq_iff_eq]
  omega

/-- The same characters are in view. -/
theorem charAt?_eq (index : Nat) : w'.charAt? index = w.charAt? index := by
  rw [Window.charAt?, Window.charAt?, h.length_eq]
  split
  · have hstop := w.stop_le
    have hin : w.start + index < x.part.size := by
      rw [h.buffer_eq] at hstop
      rw [Window.length] at *
      omega
    have hmin : w.start + index < min (x.offset + x.part.size) x.whole.size - x.offset := by
      have hfits := x.fits
      omega
    rw [h.buffer_eq, h.buffer_eq', h.start_eq, ← x.extract_eq, Array.getElem?_extract, if_pos hmin]
    congr 1
    omega
  · rfl

theorem startsWith_eq (cs : List Char) : w'.startsWith cs = w.startsWith cs := by
  have hgo : ∀ index, Window.startsWith.go w' index cs = Window.startsWith.go w index cs := by
    induction cs with
    | nil => exact fun _ => rfl
    | cons c cs ih =>
      intro index
      rw [Window.startsWith.go, Window.startsWith.go, h.charAt?_eq, ih]
  exact hgo 0

theorem runLength_eq (p : Char → Bool) (max : Nat) : w'.runLength p max = w.runLength p max := by
  have hgo : ∀ left count,
      Window.runLength.go w' p left count = Window.runLength.go w p left count := by
    intro left
    induction left with
    | zero => exact fun _ => rfl
    | succ left ih =>
      intro count
      rw [Window.runLength.go, Window.runLength.go, h.charAt?_eq, ih]
  rw [Window.runLength, Window.runLength, h.length_eq, hgo]

/-- Cutting out of both texts between places of the first one. -/
theorem slice_eq_of_le {start stop : Nat} (hstop : stop ≤ x.part.size) :
    w'.slice (start + x.offset) (stop + x.offset) = w.slice start stop := by
  have hfits := x.fits
  have hmin : min (x.offset + stop) (x.offset + x.part.size) = stop + x.offset := by omega
  have hcut : x.whole.extract (start + x.offset) (stop + x.offset) = x.part.extract start stop := by
    rw [← x.extract_eq, Array.extract_extract, hmin, Nat.add_comm start]
  have hin : start + x.offset ≤ stop + x.offset ∧ stop + x.offset ≤ x.whole.size ↔
      start ≤ stop ∧ stop ≤ x.part.size := by omega
  rw [Window.slice, Window.slice, h.buffer_eq, h.buffer_eq', hcut]
  simp only [hin]

/-- What was matched is the same text. -/
theorem slice_eq (hr : x.Windows rest rest') :
    w'.slice w'.start rest'.start = w.slice w.start rest.start := by
  have hle := Nat.le_trans rest.start_le rest.stop_le
  rw [h.start_eq, hr.start_eq]
  exact h.slice_eq_of_le (hr.buffer_eq ▸ hle)

/-- A place in view is found further on, or neither place is a position. -/
theorem addPosition_eq {count : Nat} (hcount : count ≤ w.length) :
    addPosition w'.start count = (addPosition w.start count).map (· + x.offset) := by
  rcases x.positions with hzero | hsize
  · rw [h.start_eq, hzero, Nat.add_zero]
    cases addPosition w.start count <;> rfl
  · have hsize' : w.buffer.size < positionBound := by
      have hfits := x.fits
      rw [h.buffer_eq]
      omega
    rw [Window.addPosition_eq hsize' hcount,
      Window.addPosition_eq (h.buffer_eq' ▸ hsize) (h.length_eq ▸ hcount), map_ok, h.start_eq,
      Nat.add_right_comm]

theorem text_eq {count : Nat} (hcount : count ≤ w.length) : w'.text count = w.text count := by
  rw [Window.text, Window.text, h.addPosition_eq hcount]
  cases hadd : addPosition w.start count with
  | error v => rfl
  | ok stop =>
    obtain rfl := addPosition_eq_ok hadd
    have hle := Nat.le_trans (Window.add_le_stop hcount) w.stop_le
    rw [map_ok, ok_bind, ok_bind, h.start_eq]
    exact h.slice_eq_of_le (h.buffer_eq ▸ hle)

/-- Going on at places alike leaves windows alike, or fails on both sides. -/
theorem advance_inStep (start : Nat) {C : Coupling} :
    (Plan.check (w.advance start)).InStep C
      (fun rest rest' => w.advance start = .ok rest ∧ x.Windows rest rest')
      (.check (w'.advance (start + x.offset))) := by
  have hsize : w'.stop ≤ w'.buffer.size := w'.stop_le
  have hstop := h.stop_eq
  by_cases hle : start ≤ w.stop
  · have hadvance : w.advance start = .ok ⟨w.buffer, start, w.stop, hle, w.stop_le⟩ :=
      dif_pos ⟨hle, w.stop_le⟩
    have hle' : start + x.offset ≤ w'.stop := by omega
    have hadvance' : w'.advance (start + x.offset) =
        .ok ⟨w'.buffer, start + x.offset, w'.stop, hle', w'.stop_le⟩ := dif_pos ⟨hle', w'.stop_le⟩
    rw [hadvance, hadvance']
    exact .answer ⟨rfl, h.buffer_eq, h.buffer_eq', rfl, hstop⟩
  · have hadvance : w.advance start = .error .windowOutOfBounds := dif_neg fun hin => hle hin.1
    have hadvance' : w'.advance (start + x.offset) = .error .windowOutOfBounds :=
      dif_neg fun hin => hle (by omega)
    rw [hadvance, hadvance']
    exact .halt _

end Windows

/-! ### Factories -/

section Attaching

variable {factory factory' : Option Factory} {nodes nodes' : List Node}

/-- What is made of the same text and of nodes alike. -/
theorem Factories.createWith (hf : x.Factories factory factory') (text : String)
    (hnodes : x.Nodes nodes nodes') :
    (Plan.check (Factory.createWith factory text nodes)).InStep x.coupling
      (fun a a' => x.keep a = x.keep a') (.check (Factory.createWith factory' text nodes')) := by
  rcases hf with ⟨rfl, hcreate⟩ | ⟨hkeep, ht, ht'⟩
  · have heq : Factory.createWith factory text nodes = Factory.createWith factory text nodes' := by
      cases factory with
      | none => rfl
      | some f => exact hcreate f rfl (some text) nodes nodes' hnodes
    rw [heq]
    exact .check_self fun _ _ => rfl
  · exact .check_of_tolerated (Production.tolerates_createWith ht text nodes)
      (Production.tolerates_createWith ht' text nodes') fun a b _ _ => hkeep a b

/-- What is made of what was matched and of nodes alike. -/
theorem Factories.attachmentFor (hf : x.Factories factory factory')
    {input input' rest rest' : Window} (hi : x.Windows input input') (hr : x.Windows rest rest')
    (hc : input.Continues rest) (hnodes : x.Nodes nodes nodes') :
    (Plan.check (Production.attachmentFor factory input rest nodes)).InStep x.coupling
      (fun a a' => x.keep a = x.keep a')
      (.check (Production.attachmentFor factory' input' rest' nodes')) := by
  -- Only a factory has the text cut out, so that one run may do so where the other one does not;
  -- but cutting never fails, since the rest lies further on.
  rw [Production.attachmentFor_eq hc.slice_eq,
    Production.attachmentFor_eq ((hi.slice_eq hr).trans hc.slice_eq)]
  exact hf.createWith (input.taken rest) hnodes

end Attaching

/-! ## Asking in step -/

theorem results_error {α β : Type} {E : α → β → Prop} {e e' : ParseError} :
    x.Results E (.error e) (.error e') ↔ e' = e.shift x.offset := .rfl

/-- Asking about windows alike: the replies are errors, further on in the second run, or windows and
nodes alike. -/
theorem ask_inStep {α β : Type} {E : α → β → Prop} {g g' : Grammar} {w w' : Window}
    {next : Reply → Plan α} {next' : Reply → Plan β} (hg : x.pairs g g') (hw : x.Windows w w')
    (herror : ∀ e : ParseError,
      (next (.error e)).InStep x.coupling E (next' (.error (e.shift x.offset))))
    (hok : ∀ {rest rest' : Window} {nodes nodes' : List Node}, w.Continues rest →
      x.Windows rest rest' → x.Nodes nodes nodes' →
      (next (.ok (rest, nodes))).InStep x.coupling E (next' (.ok (rest', nodes')))) :
    (Plan.ask g w next).InStep x.coupling E (.ask g' w' next') := by
  refine .ask ⟨hg, hw⟩ fun reply reply' hreply => ?_
  rcases reply with e | ⟨rest, nodes⟩ <;> rcases reply' with e' | ⟨rest', nodes'⟩
  · obtain rfl : e' = e.shift x.offset := hreply
    exact herror e
  · cases hreply
  · cases hreply
  · obtain ⟨hc, hr, hnodes⟩ := hreply
    exact hok hc hr hnodes

/-! ## Productions in step -/

section Productions

variable {factory factory' : Option Factory} {input input' cursor cursor' : Window}
  {nodes nodes' : List Node} (hf : x.Factories factory factory') (hi : x.Windows input input')
include hf hi

theorem planFinish_inStep (hr : x.Windows cursor cursor') (hc : input.Continues cursor)
    (hnodes : x.Nodes nodes nodes') :
    (Production.planFinish factory input cursor nodes).InStep x.coupling (x.Made input)
      (Production.planFinish factory' input' cursor' nodes') := by
  refine (hf.attachmentFor hi hr hc hnodes).bind fun a a' hkeep => .answer ⟨hc, hr, ?_⟩
  exact .mk (by rw [hi.start_eq, hr.start_eq, Span.shift]) none hkeep hnodes

theorem planParts_inStep {parts parts' : List Grammar}
    (hparts : List.Forall₂ x.pairs parts parts') :
    ∀ {cursor cursor' : Window} {nodes nodes' : List Node}, x.Windows cursor cursor' →
      input.Continues cursor → x.Nodes nodes nodes' →
      (Production.planParts factory input parts cursor nodes).InStep x.coupling (x.Made input)
        (Production.planParts factory' input' parts' cursor' nodes') := by
  induction hparts with
  | nil =>
    intro cursor cursor' nodes nodes' hr hc hnodes
    exact planFinish_inStep hf hi hr hc hnodes
  | cons hpart _ ih =>
    intro cursor cursor' nodes nodes' hr hc hnodes
    refine ask_inStep hpart hr (fun e => .answer ?_) fun hc' hr' hmore => ?_
    · exact (e.shift_inSequence x.offset).symm
    · exact ih hr' (hc.trans hc') (hnodes.append hmore)

theorem planBranches_inStep {branches branches' : List Grammar}
    (hbranches : List.Forall₂ x.pairs branches branches') :
    (Production.planBranches factory input branches).InStep x.coupling (x.Made input)
      (Production.planBranches factory' input' branches') := by
  induction hbranches with
  | nil =>
    refine .answer (results_error.mpr ?_)
    rw [hi.start_eq, ParseError.shift]
  | cons hbranch _ ih =>
    refine ask_inStep hbranch hi (fun e => ?_) fun hc' hr' hmore => ?_
    · dsimp only
      rw [ParseError.isRecoverable_shift]
      split
      · exact ih
      · exact .answer rfl
    · exact planFinish_inStep hf hi hr' hc' hmore

theorem planFinishRepetition_inStep (min count : Nat) (hr : x.Windows cursor cursor')
    (hc : input.Continues cursor) (hnodes : x.Nodes nodes nodes') :
    (Production.planFinishRepetition min factory input cursor count nodes).InStep x.coupling
      (x.Made input)
      (Production.planFinishRepetition min factory' input' cursor' count nodes') := by
  rw [Production.planFinishRepetition, Production.planFinishRepetition]
  split
  · refine .answer (results_error.mpr ?_)
    rw [hi.start_eq, ParseError.shift]
  · exact planFinish_inStep hf hi hr hc hnodes

/-- By induction on the matches that may still be counted: both runs count alike, and both stop at a
match that takes nothing. -/
theorem planMatches_inStep (min : Nat) (max : Option Nat) {body body' : Grammar}
    (hbody : x.pairs body body') (left : Nat) :
    ∀ {count : Nat} {cursor cursor' : Window} {nodes nodes' : List Node},
      x.Windows cursor cursor' → input.Continues cursor → x.Nodes nodes nodes' →
      (Production.planMatches min max body factory input left count cursor nodes).InStep x.coupling
        (x.Made input)
        (Production.planMatches min max body' factory' input' left count cursor' nodes') := by
  induction left with
  | zero =>
    intro count cursor cursor' nodes nodes' hr hc hnodes
    rw [Production.planMatches, Production.planMatches]
    split
    · exact planFinishRepetition_inStep hf hi min count hr hc hnodes
    · exact .halt _
  | succ left ih =>
    intro count cursor cursor' nodes nodes' hr hc hnodes
    refine ask_inStep hbody hr (fun e => ?_) fun {rest rest' _ _} hc' hr' hmore => ?_
    · dsimp only
      rw [ParseError.isRecoverable_shift]
      split
      · exact planFinishRepetition_inStep hf hi min count hr hc hnodes
      · exact .answer rfl
    · have hmoves : decide (cursor'.start < rest'.start) = decide (cursor.start < rest.start) := by
        rw [hr.start_eq, hr'.start_eq]
        simp
      refine Plan.InStep.andThen (E := Eq) (.check_self fun _ _ => rfl) ?_
      rintro count _ rfl
      rw [hmoves]
      split
      · exact planFinishRepetition_inStep hf hi min _ hr' (hc.trans hc') (hnodes.append hmore)
      · exact ih hr' (hc.trans hc') (hnodes.append hmore)

end Productions

/-! ## What productions hand over -/

/-- Attaching anew with a factory that cannot tell the nodes apart. -/
theorem mapM_reattach_inStep {f : Factory}
    (hcreate : ∀ text nodes nodes', x.Nodes nodes nodes' →
      f.create text nodes = f.create text nodes') :
    ∀ {nodes nodes' : List Node}, x.Nodes nodes nodes' →
      (Plan.check (nodes.mapM (Production.reattach f))).InStep x.coupling x.Nodes
        (.check (nodes'.mapM (Production.reattach f)))
  | [], [], _ => .answer .nil
  | [], _ :: _, h => by cases h.length_eq
  | _ :: _, [], h => by cases h.length_eq
  | node :: nodes, node' :: nodes', h => by
    obtain ⟨hnode, hnodes⟩ := nodes_cons.mp h
    rw [List.mapM_cons, List.mapM_cons]
    refine Plan.InStep.bind (E := fun n n' => x.Nodes [n] [n']) ?_ fun n n' hn => ?_
    · have heq : f.create node'.value node'.children = f.create node.value node.children := by
        rw [hnode.value_eq, hcreate node.value node.children node'.children hnode.children]
      rw [Production.reattach, Production.reattach, heq]
      refine Plan.InStep.bind (E := Eq) (.check_self fun _ _ => rfl) ?_
      rintro attachment _ rfl
      exact .answer (hnode.reattached rfl)
    · exact (mapM_reattach_inStep hcreate hnodes).bind fun out out' hout =>
        .answer (nodes_cons.mpr ⟨hn, hout⟩)

/-- What two productions of one kind hand to their parents. -/
theorem handed_inStep {production production' : Production}
    (hp : production.Counterparts x.pairs production')
    (hf : x.Factories production.factory? production'.factory?) {me me' : Node}
    (hme : x.Nodes [me] [me']) :
    (Plan.check (production.handed me)).InStep x.coupling x.Nodes
      (.check (production'.handed me')) := by
  have hgiven : x.Nodes (production.given me) (production'.given me') := by
    cases hp with
    | lift => exact hme.children.flatMap_children
    | _ => exact hme
  rcases hf with ⟨heq, hcreate⟩ | ⟨hkeep, ht, ht'⟩
  · cases hp with
    | lift factory factory' hbody =>
      obtain rfl : factory = factory' := heq
      cases factory with
      | none => exact .answer hgiven
      | some f => exact mapM_reattach_inStep (hcreate f rfl) hgiven
    | _ => exact .answer hme
  · refine .check_of_tolerated (fun v hv => ?_) (fun v hv => ?_) fun out out' hout hout' => ?_
    · obtain ⟨f, text, children, hfactory, hcreate⟩ := Production.handed_eq_error hv
      exact ht f text children v hfactory hcreate
    · obtain ⟨f, text, children, hfactory, hcreate⟩ := Production.handed_eq_error hv
      exact ht' f text children v hfactory hcreate
    · -- Nothing is compared of attachments, so that those made anew make no difference.
      have hnear := map_relabel_eq_of_reattached hkeep (Production.handed_eq_ok hout)
        (Option.map (Span.shift x.offset))
      have hfar := map_relabel_eq_of_reattached hkeep (Production.handed_eq_ok hout') id
      exact hnear.trans (hgiven.trans hfar.symm)

/-- **Productions of one kind are in step.** -/
theorem production_inStep {production production' : Production}
    (hp : production.Counterparts x.pairs production')
    (hf : x.Factories production.factory? production'.factory?) {input input' : Window}
    (hi : x.Windows input input') :
    (production.plan input).InStep x.coupling (x.Made input) (production'.plan input') := by
  cases hp with
  | sequence factory factory' hparts => exact planParts_inStep hf hi hparts hi (.refl input) .nil
  | choice factory factory' hbranches => exact planBranches_inStep hf hi hbranches
  | repetition min max factory factory' hbody =>
    rw [Production.plan, Production.plan, hi.length_eq]
    exact planMatches_inStep hf hi min max hbody _ hi (.refl input) .nil
  | lift factory factory' hbody =>
    refine ask_inStep hbody hi (fun e => .answer rfl) fun hc hr hnodes => ?_
    exact planFinish_inStep (.inl ⟨rfl, nofun⟩) hi hr hc hnodes
  | join joint factory factory' hbody =>
    refine ask_inStep hbody hi (fun e => .answer rfl) fun hc hr hnodes => ?_
    dsimp only
    rw [Production.planJoined, Production.planJoined, hnodes.joinValues_eq]
    refine (hf.createWith _ hnodes).bind fun a a' hkeep => .answer ⟨hc, hr, ?_⟩
    exact .mk (by rw [hi.start_eq, hr.start_eq, Span.shift]) _ hkeep .nil
  | preserve factory factory' hbody =>
    refine ask_inStep hbody hi (fun e => .answer rfl) fun hc hr hnodes => ?_
    refine (hf.attachmentFor hi hr hc hnodes).bind fun a a' hkeep =>
      .answer ⟨.refl input, hi, ?_⟩
    exact .mk (by rw [hi.start_eq, Span.shift]) none hkeep hnodes

/-! ## Combinators in step -/

section Leaves

variable {factory factory' : Option Factory} {input input' : Window}
  (hf : x.Factories factory factory') (hi : x.Windows input input')
include hi

include hf in
theorem leafReply_inStep {stop : Nat} (hstop : input.start ≤ stop) (value : String) :
    (Plan.check (Grammar.leafReply input stop value factory)).InStep x.coupling (x.Replies input)
      (.check (Grammar.leafReply input' (stop + x.offset) value factory')) := by
  refine (hi.advance_inStep stop).bind ?_
  rintro rest rest' ⟨hadvance, hr⟩
  have hc := Window.continues_of_advance hadvance hstop
  refine (hf.createWith value .nil).bind fun a a' hkeep => .answer ⟨hc, hr, ?_⟩
  exact .mk (by rw [hi.start_eq, Span.shift]) _ hkeep .nil

include hf in
theorem exactReply_inStep (token : String) :
    (Plan.check (Grammar.exactReply token factory input)).InStep x.coupling (x.Replies input)
      (.check (Grammar.exactReply token factory' input')) := by
  rw [Grammar.exactReply, Grammar.exactReply, hi.startsWith_eq]
  split
  · obtain ⟨hlength, -⟩ := Window.startsWith_token ‹_›
    rw [hi.addPosition_eq hlength]
    cases hadd : addPosition input.start token.length with
    | error v => exact .halt _
    | ok stop =>
      obtain rfl := addPosition_eq_ok hadd
      exact leafReply_inStep hf hi (Nat.le_add_right ..) token
  · refine .answer (results_error.mpr ?_)
    rw [hi.start_eq, ParseError.shift]

include hf in
theorem charRunReply_inStep (min : Nat) (max : Option Nat) (cls : CharClass) :
    (Plan.check (Grammar.charRunReply min max cls factory input)).InStep x.coupling
      (x.Replies input) (.check (Grammar.charRunReply min max cls factory' input')) := by
  rw [Grammar.charRunReply, Grammar.charRunReply, hi.length_eq, hi.runLength_eq]
  split
  · refine .answer (results_error.mpr ?_)
    rw [hi.start_eq, ParseError.shift]
  · have hlength := input.runLength_le cls.contains (max.getD input.length)
    rw [hi.text_eq hlength, hi.addPosition_eq hlength]
    refine Plan.InStep.bind (E := Eq) (.check_self fun _ _ => rfl) ?_
    rintro text _ rfl
    cases hadd : addPosition input.start (input.runLength cls.contains (max.getD input.length)) with
    | error v => exact .halt _
    | ok stop =>
      obtain rfl := addPosition_eq_ok hadd
      exact leafReply_inStep hf hi (Nat.le_add_right ..) text

theorem endReply_inStep : x.Replies input (Grammar.endReply input) (Grammar.endReply input') := by
  rw [Grammar.endReply, Grammar.endReply, hi.isEmpty_eq]
  split
  · exact ⟨.refl input, hi, .nil⟩
  · refine results_error.mpr ?_
    rw [hi.start_eq, ParseError.shift]

theorem replacedReply_inStep (translator : Translator) {rest rest' : Window}
    (hr : x.Windows rest rest') (hc : input.Continues rest) {nodes nodes' : List Node}
    (hnodes : x.Nodes nodes nodes') :
    (Plan.check (Grammar.replacedReply translator input rest nodes)).InStep x.coupling
      (x.Replies input) (.check (Grammar.replacedReply translator input' rest' nodes')) := by
  have hlength := hnodes.length_eq
  match nodes, nodes', hnodes, hlength with
  | [node], [node'], hnodes, _ =>
    have hmade : ∀ value : Option String, x.Nodes
        [{ node with span := some ⟨input.start, rest.start⟩, value }]
        [{ node' with span := some ⟨input'.start, rest'.start⟩, value }] := by
      intro value
      exact .mk (by rw [hi.start_eq, hr.start_eq, Span.shift]) value hnodes.keep_eq hnodes.children
    rw [Grammar.replacedReply, Grammar.replacedReply, hnodes.value_eq, hi.slice_eq hr]
    cases node.value with
    | some value => exact .answer ⟨hc, hr, hmade _⟩
    | none =>
      refine Plan.InStep.bind (E := Eq) (.check_self fun _ _ => rfl) ?_
      rintro text _ rfl
      exact .answer ⟨hc, hr, hmade _⟩
  | [], [], _, _ =>
    refine .answer (results_error.mpr ?_)
    rw [hi.start_eq, ParseError.shift]
  | _ :: _ :: _, _ :: _ :: _, _, hlength =>
    rw [Grammar.replacedReply, Grammar.replacedReply, hlength]
    · refine .answer (results_error.mpr ?_)
      rw [hi.start_eq, ParseError.shift]
    all_goals
      intro node hsingle
      cases hsingle
  | [], _ :: _, _, hlength => cases hlength
  | _ :: _, [], _, hlength => cases hlength
  | [_], _ :: _ :: _, _, hlength => cases hlength
  | _ :: _ :: _, [_], _, hlength => cases hlength

end Leaves

/-- **Combinators of one kind are in step.** -/
theorem plan_inStep {bindings bindings' : Bindings} {g g' : Grammar}
    (hg : g.Counterparts bindings bindings' x.pairs g')
    (hf : x.Factories g.factory? g'.factory?) {input input' : Window}
    (hi : x.Windows input input') :
    (g.plan bindings input).InStep x.coupling (x.Replies input) (g'.plan bindings' input') := by
  cases hg with
  | exact token factory factory' => exact exactReply_inStep hf hi token
  | charRun min max cls factory factory' => exact charRunReply_inStep hf hi min max cls
  | endOfInput => exact .answer (endReply_inStep hi)
  | skip hbody =>
    exact ask_inStep hbody hi (fun e => .answer rfl) fun hc hr _ => .answer ⟨hc, hr, .nil⟩
  | require hbody =>
    refine ask_inStep hbody hi (fun e => .answer ?_) fun hc hr hnodes => .answer ⟨hc, hr, hnodes⟩
    exact (e.shift_escalate x.offset).symm
  | group name hbody =>
    refine ask_inStep hbody hi (fun e => .answer ?_) fun hc hr hnodes => .answer ⟨hc, hr, hnodes⟩
    exact (e.shift_withContext x.offset name).symm
  | replace translator hbody =>
    exact ask_inStep hbody hi (fun e => .answer rfl) fun hc hr hnodes =>
      replacedReply_inStep hi translator hr hc hnodes
  | reference name htargets =>
    rw [Grammar.plan, Grammar.plan]
    generalize bindings.target? name = target, bindings'.target? name = target' at htargets
    cases htargets with
    | none =>
      refine .answer (results_error.mpr ?_)
      rw [hi.start_eq, ParseError.shift]
    | some hpair =>
      exact ask_inStep hpair hi (fun e => .answer rfl) fun hc hr hnodes => .answer ⟨hc, hr, hnodes⟩
  | memoized id id' hproduction =>
    refine (production_inStep hproduction hf hi).andThen fun made made' hmade => ?_
    rcases made with e | ⟨rest, me⟩ <;> rcases made' with e' | ⟨rest', me'⟩
    · exact .answer hmade
    · cases hmade
    · cases hmade
    · obtain ⟨hc, hr, hme⟩ := hmade
      exact (handed_inStep hproduction hf hme).map fun nodes nodes' hnodes => ⟨hc, hr, hnodes⟩
  | windowed size hbody =>
    obtain ⟨inner, hn⟩ := input.exists_narrow_eq size
    obtain ⟨inner', hn'⟩ := input'.exists_narrow_eq size
    have hinner : x.Windows inner inner' := by
      obtain ⟨hbuffer, hstart, hstop⟩ := Window.narrow_eq_ok hn
      obtain ⟨hbuffer', hstart', hstop'⟩ := Window.narrow_eq_ok hn'
      rw [hi.length_eq] at hstop'
      refine ⟨hbuffer.trans hi.buffer_eq, hbuffer'.trans hi.buffer_eq', ?_, ?_⟩
      · rw [hstart, hstart', hi.start_eq]
      · rw [hstop, hstop', hi.start_eq, Nat.add_right_comm]
    -- The inner rests do not belong to `input`; going on from them leaves rests that do.
    have hle : input.start ≤ inner.start := (Window.encloses_of_narrow hn).start_le
    rw [Grammar.plan, Grammar.plan, hn, hn']
    refine ask_inStep hbody hinner (fun e => .answer rfl) fun hc hr hnodes => ?_
    dsimp only
    rw [hr.start_eq]
    refine (hi.advance_inStep _).map ?_
    rintro rest rest' ⟨hadvance, hrest⟩
    have hc' := Window.continues_of_advance hadvance (Nat.le_trans hle hc.start_le)
    exact ⟨hc', hrest, hnodes⟩

/-- Two runs are in step if any two grammars that are asked about side by side are of one kind, with
factories alike. -/
theorem kept {bindings bindings' : Bindings}
    (h : ∀ g g', x.pairs g g' → g.Counterparts bindings bindings' x.pairs g' ∧
      x.Factories g.factory? g'.factory?) : x.coupling.Kept bindings bindings' := by
  rintro g w g' w' ⟨hpair, hw⟩
  obtain ⟨hg, hf⟩ := h g g' hpair
  exact plan_inStep hg hf hw

end Likeness

end Packrat
