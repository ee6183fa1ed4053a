import Mathlib.Data.List.Forall2
import Packrat.Grammar.Parts
import Packrat.Proofs.Plan
import Packrat.Proofs.Windows

/-! # What a production gathers

A production makes its node of the nodes that its parts have made, one part after the other, from
the start of its window.  What may be said of the nodes made between two windows, as long as it is
kept when more nodes are appended (`Gathers`), may therefore be said of all the nodes that a
production has gathered (`Production.plan_gathers`): nothing is left of a branch that failed or of
the last repetition, and nothing comes in twice.

No production breaks a precondition on its way.  The text it matched can be cut out of its window,
and its count of repetitions stays in the range of a position, for every bound of that range
(`CanCount`).  So its plan halts only if there is not enough fuel or if its factory breaks off.
-/
namespace Packrat

/-! ## Counting repetitions -/

/-- A repetition of at most `max` matches from `input` on has made `count` of them up to `cursor`,
and may go on to count `left` more.  With a bound the count stays below it; without one each match
but the last takes a character. -/
def CanCount (max : Option Nat) (input : Window) (left count : Nat) (cursor : Window) : Prop :=
  match max with
  | some bound => count + left ≤ bound ∧ bound < positionBound
  | none => input.start + count ≤ cursor.start ∧ input.buffer.size + 1 < positionBound

namespace CanCount

variable {max : Option Nat} {input cursor rest : Window} {left count : Nat}

/-- Before its first match a repetition may count as many as it has turns. -/
theorem start {w : Window} (hsize : w.buffer.size + 1 < positionBound)
    (hmax : ∀ bound, max = some bound → bound < positionBound) :
    CanCount max w (max.getD (w.length + 1)) 0 w := by
  cases hbound : max with
  | some bound => exact ⟨Nat.le_of_eq (Nat.zero_add _), hmax bound hbound⟩
  | none => exact ⟨Nat.le_refl _, hsize⟩

/-- The next match can be counted. -/
theorem addPosition_eq (h : CanCount max input (left + 1) count cursor)
    (hc : input.Continues cursor) : addPosition count 1 = .ok (count + 1) := by
  apply addPosition_of_lt
  cases max with
  | some bound =>
    obtain ⟨hcount, hbound⟩ := h
    omega
  | none =>
    obtain ⟨hcount, hsize⟩ := h
    have hstart := hc.start_le_stop
    have hstop := input.stop_le
    omega

/-- So can the one after it, unless there is no bound and the match takes nothing. -/
theorem next (h : CanCount max input (left + 1) count cursor)
    (hmoves : max = none → cursor.start < rest.start) :
    CanCount max input left (count + 1) rest := by
  cases max with
  | some bound =>
    obtain ⟨hcount, hbound⟩ := h
    exact ⟨by omega, hbound⟩
  | none =>
    obtain ⟨hcount, hsize⟩ := h
    have hmoved := hmoves rfl
    exact ⟨by omega, hsize⟩

end CanCount

/-- The halts that the factory may cause are among the `allowed` ones. -/
def Tolerates (allowed : Halt → Prop) (factory : Option Factory) : Prop :=
  ∀ f text nodes v, factory = some f → f.create text nodes = .error v → allowed (.violation v)

namespace Production

/-- The factory of a production. -/
def factory? : Production → Option Factory
  | sequence _ factory => factory
  | choice _ factory => factory
  | repetition _ _ _ factory => factory
  | lift _ factory => factory
  | join _ _ factory => factory
  | preserve _ factory => factory

/-- A repetition can count its matches: its bound is a position, or the text has fewer characters
than there are positions. -/
def CountsIn (input : Window) : Production → Prop
  | repetition _ max _ _ => CanCount max input (max.getD (input.length + 1)) 0 input
  | _ => True

/-- The rest of the window and the node of a production that has gathered `nodes` up to `rest`. -/
def finished (input : Window) :
    Production → Window → List Node → Option Attachment → Window × Node
  | join joint _ _, rest, nodes, attachment =>
    (rest, ⟨some ⟨input.start, rest.start⟩, some (Node.joinValues joint nodes), attachment, []⟩)
  | preserve _ _, _, nodes, attachment =>
    (input, ⟨some ⟨input.start, input.start⟩, none, attachment, nodes⟩)
  | _, rest, nodes, attachment =>
    (rest, ⟨some ⟨input.start, rest.start⟩, none, attachment, nodes⟩)

end Production

/-! ## What a production hands over -/

/-- `m.Reattached n`: `n` is `m`, but for its attachment. -/
structure Node.Reattached (m n : Node) : Prop where
  span_eq : n.span = m.span
  value_eq : n.value = m.value
  children_eq : n.children = m.children

theorem Node.Reattached.refl (m : Node) : m.Reattached m := ⟨rfl, rfl, rfl⟩

namespace Production

/-- The nodes that are handed to the parent for a finished node, before a lift gives them their
attachments. -/
def given : Production → Node → List Node
  | lift _ _, me => grandchildren me
  | _, me => [me]

theorem reattach_eq_ok {f : Factory} {m n : Node} (h : reattach f m = .ok n) : m.Reattached n := by
  obtain ⟨attachment, -, hn⟩ := bind_eq_ok.mp h
  cases hn
  exact ⟨rfl, rfl, rfl⟩

theorem mapM_reattach_eq_ok {f : Factory} :
    ∀ {nodes out : List Node}, nodes.mapM (reattach f) = .ok out →
      List.Forall₂ Node.Reattached nodes out
  | [], out, h => by
    cases h
    exact .nil
  | node :: nodes, out, h => by
    rw [List.mapM_cons] at h
    obtain ⟨node', hnode, h⟩ := bind_eq_ok.mp h
    obtain ⟨rest, hrest, h⟩ := bind_eq_ok.mp h
    cases h
    exact .cons (reattach_eq_ok hnode) (mapM_reattach_eq_ok hrest)

theorem mapM_reattach_eq_error {f : Factory} {v : Violation} :
    ∀ {nodes : List Node}, nodes.mapM (reattach f) = .error v →
      ∃ text children, f.create text children = .error v
  | [], h => by cases h
  | node :: nodes, h => by
    rw [List.mapM_cons] at h
    cases hcreate : f.create node.value node.children with
    | error v' =>
      rw [reattach, hcreate] at h
      cases h
      exact ⟨node.value, node.children, hcreate⟩
    | ok attachment =>
      rw [reattach, hcreate, ok_bind, pure_eq_ok, ok_bind] at h
      cases hrest : nodes.mapM (reattach f) with
      | error v' =>
        rw [hrest] at h
        cases h
        exact mapM_reattach_eq_error hrest
      | ok rest =>
        rw [hrest] at h
        cases h

/-- What is handed over is what was given, but for the attachments. -/
theorem handed_eq_ok {production : Production} {me : Node} {nodes : List Node}
    (h : production.handed me = .ok nodes) :
    List.Forall₂ Node.Reattached (production.given me) nodes := by
  have hsame : ∀ nodes : List Node, List.Forall₂ Node.Reattached nodes nodes := fun nodes =>
    List.forall₂_same.mpr fun node _ => .refl node
  cases production with
  | lift body factory =>
    cases factory with
    | none =>
      cases h
      exact hsame _
    | some f => exact mapM_reattach_eq_ok h
  | _ =>
    cases h
    exact hsame _

/-- Handing over breaks off only where the factory does. -/
theorem handed_eq_error {production : Production} {me : Node} {v : Violation}
    (h : production.handed me = .error v) :
    ∃ f text children, production.factory? = some f ∧ f.create text children = .error v := by
  cases production with
  | lift body factory =>
    cases factory with
    | none => cases h
    | some f =>
      obtain ⟨text, children, hcreate⟩ := mapM_reattach_eq_error h
      exact ⟨f, text, children, rfl, hcreate⟩
  | _ => cases h

end Production

/-! ## What is kept when nodes are gathered -/

/-- `P w rest nodes` says something of the nodes made between `w` and `rest`, and `E w e` something
of an error at `w`, that holds of all that productions gather if it holds of what their parts
make. -/
structure Gathers (P : Window → Window → List Node → Prop) (E : Window → ParseError → Prop) :
    Prop where
  nil (w : Window) : P w w []
  append {w rest rest' : Window} {nodes more : List Node} :
    P w rest nodes → P rest rest' more → P w rest' (nodes ++ more)
  continues {w rest : Window} {nodes : List Node} : P w rest nodes → w.Continues rest
  /-- An error further on is an error of the whole. -/
  later {w rest : Window} {e : ParseError} : w.Continues rest → E rest e → E w e
  mismatch (w : Window) (message : String) : E w (.mismatch message w.start none)
  noAlternative (w : Window) : E w (.noAlternative w.start none)
  context {w : Window} {e : ParseError} (frame : String) : E w e → E w (e.withContext frame)

/-- The nodes of a reply, or its error, are of that kind. -/
def Reply.Gathered (P : Window → Window → List Node → Prop) (E : Window → ParseError → Prop)
    (w : Window) : Reply → Prop
  | .ok (rest, nodes) => P w rest nodes
  | .error e => E w e

/-- What a production has made with `make` was made of nodes of that kind, or its error is. -/
def Production.Gathered (P : Window → Window → List Node → Prop) (E : Window → ParseError → Prop)
    (input : Window) (make : Window → List Node → Option Attachment → Window × Node) :
    Except ParseError (Window × Node) → Prop
  | .ok made => ∃ rest nodes attachment, made = make rest nodes attachment ∧ P input rest nodes
  | .error e => E input e

section Guarding

variable {α : Type} {allowed : Halt → Prop} {p : α → Prop}

theorem guards_mapError {x : Except Violation α} :
    Guards allowed p (x.mapError .violation) ↔
      (∀ a, x = .ok a → p a) ∧ ∀ v, x = .error v → allowed (.violation v) := by
  cases x <;> simp

/-- Going on with a checked result that cannot be told beforehand. -/
theorem guards_bind {β : Type} {x : Except Violation β} {f : β → Except Violation α}
    (hx : ∀ v, x = .error v → allowed (.violation v))
    (hf : ∀ b, Guards allowed p ((f b).mapError .violation)) :
    Guards allowed p ((x >>= f).mapError .violation) := by
  cases x with
  | error v => exact hx v rfl
  | ok b => exact hf b

end Guarding

namespace Production

variable {P : Window → Window → List Node → Prop} {E : Window → ParseError → Prop}
  {pre : Grammar → Window → Prop} {post : Grammar → Window → Reply → Prop}
  {allowed : Halt → Prop} {factory : Option Factory} {input : Window}

/-- Only a factory has the text cut out. -/
theorem attachmentFor_eq {rest : Window} {text : String}
    (h : input.slice input.start rest.start = .ok text) (nodes : List Node) :
    attachmentFor factory input rest nodes = Factory.createWith factory text nodes := by
  cases factory with
  | none => rfl
  | some f => rw [attachmentFor, h, ok_bind, Factory.createWith]

/-- Only the factory can break off. -/
theorem tolerates_createWith (ht : Tolerates allowed factory) (text : String) (nodes : List Node)
    (v : Violation) (hv : Factory.createWith factory text nodes = .error v) :
    allowed (.violation v) := by
  cases factory with
  | none => cases hv
  | some f => exact ht f _ nodes v rfl hv

theorem tolerates_attachmentFor (ht : Tolerates allowed factory) {rest : Window}
    (hc : input.Continues rest) (nodes : List Node) (v : Violation)
    (hv : attachmentFor factory input rest nodes = .error v) : allowed (.violation v) := by
  rw [attachmentFor_eq hc.slice_eq] at hv
  exact tolerates_createWith ht _ nodes v hv

section Traversal

variable (hgathers : Gathers P E) {make : Window → List Node → Option Attachment → Window × Node}
  (hmake : ∀ rest nodes attachment, make rest nodes attachment =
    (rest, ⟨some ⟨input.start, rest.start⟩, none, attachment, nodes⟩))
  (ht : Tolerates allowed factory)
include hgathers hmake ht

theorem planFinish_gathers {rest : Window} {nodes : List Node} (h : P input rest nodes) :
    (planFinish factory input rest nodes).Meets pre post
      (Guards allowed (Gathered P E input make)) := by
  have hcheck := tolerates_attachmentFor ht (hgathers.continues h) nodes
  refine guards_bind hcheck fun attachment => ?_
  exact ⟨rest, nodes, attachment, (hmake rest nodes attachment).symm, h⟩

theorem planParts_gathers {all : List Grammar}
    (hpost : ∀ g ∈ all, ∀ w reply, post g w reply → Reply.Gathered P E w reply) :
    ∀ {parts : List Grammar} {cursor : Window} {nodes : List Node}, (∀ g ∈ parts, g ∈ all) →
    P input cursor nodes →
    (planParts factory input parts cursor nodes).Meets
      (fun g w => g ∈ all ∧ input.Continues w) post (Guards allowed (Gathered P E input make))
  | [], _, _, _, h => planFinish_gathers hgathers hmake ht h
  | part :: parts, cursor, nodes, hparts, h => by
    have hc := hgathers.continues h
    refine ⟨⟨hparts part (.head _), hc⟩, fun reply hreply => ?_⟩
    have hr := hpost part (hparts part (.head _)) cursor reply hreply
    rcases reply with e | ⟨rest, more⟩
    · have he := hgathers.later hc hr
      show E input e.inSequence
      rw [ParseError.inSequence]
      split
      · exact hgathers.context _ he
      · exact he
    · exact planParts_gathers hpost (fun g hg => hparts g (.tail _ hg)) (hgathers.append h hr)

theorem planBranches_gathers {all : List Grammar}
    (hpost : ∀ g ∈ all, ∀ w reply, post g w reply → Reply.Gathered P E w reply) :
    ∀ {branches : List Grammar}, (∀ g ∈ branches, g ∈ all) →
    (planBranches factory input branches).Meets
      (fun g w => g ∈ all ∧ input.Continues w) post (Guards allowed (Gathered P E input make))
  | [], _ => hgathers.noAlternative input
  | branch :: branches, hbranches => by
    refine ⟨⟨hbranches branch (.head _), .refl input⟩, fun reply hreply => ?_⟩
    have hr := hpost branch (hbranches branch (.head _)) input reply hreply
    rcases reply with e | ⟨rest, nodes⟩
    · dsimp only
      split
      · exact planBranches_gathers hpost fun g hg => hbranches g (.tail _ hg)
      · exact hr
    · exact planFinish_gathers hgathers hmake ht hr

theorem planFinishRepetition_gathers {min count : Nat} {cursor : Window} {nodes : List Node}
    (h : P input cursor nodes) :
    (planFinishRepetition min factory input cursor count nodes).Meets pre post
      (Guards allowed (Gathered P E input make)) := by
  rw [planFinishRepetition]
  split
  · exact hgathers.mismatch input _
  · exact planFinish_gathers hgathers hmake ht h

/-- The count is kept in range along with what has been gathered. -/
theorem planMatches_gathers {min : Nat} {max : Option Nat} {body : Grammar} {all : List Grammar}
    (hpost : ∀ w reply, post body w reply → Reply.Gathered P E w reply) (hbody : body ∈ all)
    (hfuel : allowed .outOfFuel) :
    ∀ {left count : Nat} {cursor : Window} {nodes : List Node}, P input cursor nodes →
    (CanCount max input left count cursor ∨ allowed (.violation .positionOverflow)) →
    (planMatches min max body factory input left count cursor nodes).Meets
      (fun g w => g ∈ all ∧ input.Continues w) post (Guards allowed (Gathered P E input make))
  | 0, count, cursor, nodes, h, _ => by
    rw [planMatches]
    split
    · exact planFinishRepetition_gathers hgathers hmake ht h
    · exact hfuel
  | left + 1, count, cursor, nodes, h, hcount => by
    have hc := hgathers.continues h
    refine ⟨⟨hbody, hc⟩, fun reply hreply => ?_⟩
    have hr := hpost cursor reply hreply
    rcases reply with e | ⟨rest, more⟩
    · dsimp only
      split
      · exact planFinishRepetition_gathers hgathers hmake ht h
      · exact hgathers.later hc hr
    · dsimp only
      cases hadd : addPosition count 1 with
      | error v =>
        rcases hcount with hcount | hoverflow
        · rw [hcount.addPosition_eq hc] at hadd
          cases hadd
        · rw [addPosition] at hadd
          split at hadd
          · cases hadd
          · cases hadd
            exact hoverflow
      | ok count' =>
        simp only [Plan.check_ok, Plan.answer_andThen]
        split
        · exact planFinishRepetition_gathers hgathers hmake ht (hgathers.append h hr)
        · rename_i hgoes
          refine planMatches_gathers hpost hbody hfuel (hgathers.append h hr) ?_
          refine hcount.imp_left fun hcount => ?_
          rw [addPosition_eq_ok hadd]
          refine hcount.next fun hnone => ?_
          simpa [hnone] using hgoes

end Traversal

/-- **What holds of the nodes of the parts holds of the nodes that a production gathers**, and the
production breaks no precondition. -/
theorem plan_gathers (hgathers : Gathers P E) (production : Production) (input : Window)
    (hpost : ∀ g ∈ production.parts, ∀ w reply, post g w reply → Reply.Gathered P E w reply)
    (ht : Tolerates allowed production.factory?) (hfuel : allowed .outOfFuel)
    (hcount : production.CountsIn input ∨ allowed (.violation .positionOverflow)) :
    (production.plan input).Meets (fun g w => g ∈ production.parts ∧ input.Continues w) post
      (Guards allowed (Gathered P E input (production.finished input))) := by
  cases production with
  | sequence parts factory =>
    exact planParts_gathers hgathers (fun _ _ _ => rfl) ht hpost (fun _ hg => hg)
      (hgathers.nil input)
  | choice branches factory =>
    exact planBranches_gathers hgathers (fun _ _ _ => rfl) ht hpost fun _ hg => hg
  | repetition min max body factory =>
    exact planMatches_gathers hgathers (fun _ _ _ => rfl) ht (hpost body (.head _)) (.head _) hfuel
      (hgathers.nil input) hcount
  | lift body factory =>
    refine ⟨⟨.head _, .refl input⟩, fun reply hreply => ?_⟩
    have hr := hpost body (.head _) input reply hreply
    rcases reply with e | ⟨rest, nodes⟩
    · exact hr
    · exact planFinish_gathers hgathers (fun _ _ _ => rfl) nofun hr
  | join joint body factory =>
    refine ⟨⟨.head _, .refl input⟩, fun reply hreply => ?_⟩
    have hr := hpost body (.head _) input reply hreply
    rcases reply with e | ⟨rest, nodes⟩
    · exact hr
    · have hcheck := tolerates_createWith ht (Node.joinValues joint nodes) nodes
      exact guards_bind hcheck fun attachment => ⟨rest, nodes, attachment, rfl, hr⟩
  | preserve body factory =>
    refine ⟨⟨.head _, .refl input⟩, fun reply hreply => ?_⟩
    have hr := hpost body (.head _) input reply hreply
    rcases reply with e | ⟨rest, nodes⟩
    · exact hr
    · have hcheck := tolerates_attachmentFor ht (hgathers.continues hr) nodes
      exact guards_bind hcheck fun attachment => ⟨rest, nodes, attachment, rfl, hr⟩

end Production

end Packrat
