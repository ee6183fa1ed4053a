import Packrat.Proofs.Commitment
import Packrat.Proofs.Replies

/-! # What a sequence takes

The parts of a sequence consume **in turn** (`InTurn`): each one consumes by itself what the one
before it left, and the first one that does not match ends it.  Turns of a longer list are turns of
its front and then of the rest (`inTurn_append`), so that parts may be taken together.

A lifted sequence replies what its parts reply in turn, but for a frame around the error of one that
failed (`Repertoire.repliesAlone_liftedSequence`).  Therefore it may stand among other parts in the
place of its own (`nested_sequence_answers_iff`).
-/
namespace Packrat

/-- The reply with `nodes` in front of its own. -/
def Reply.behind (nodes : List Node) (reply : Reply) : Reply :=
  reply.map fun (rest, more) => (rest, nodes ++ more)

/-- The reply as it leaves the frame of a sequence. -/
def Reply.inSequence (reply : Reply) : Reply :=
  reply.mapError ParseError.inSequence

/-- What `parts` reply one after the other: where the last one stopped and the nodes of all of them
in order, or how the first one ended that did not match. -/
inductive InTurn (bindings : Bindings) : List Grammar → Window → Except Halt Reply → Prop
  | nil {w : Window} : InTurn bindings [] w (.ok (.ok (w, [])))
  | matched {part : Grammar} {parts : List Grammar} {w rest : Window} {nodes : List Node}
      {r : Except Halt Reply} :
      part.RepliesAlone bindings w (.ok (.ok (rest, nodes))) → InTurn bindings parts rest r →
      InTurn bindings (part :: parts) w (r.map (Reply.behind nodes))
  | failed {part : Grammar} {parts : List Grammar} {w : Window} {e : ParseError} :
      part.RepliesAlone bindings w (.ok (.error e)) →
      InTurn bindings (part :: parts) w (.ok (.error e))
  | halted {part : Grammar} {parts : List Grammar} {w : Window} {halt : Halt} :
      part.RepliesAlone bindings w (.error halt) → InTurn bindings (part :: parts) w (.error halt)

/-- Going on with `next` behind a match; all other replies stay. -/
def GoesOn (next : Window → Except Halt Reply → Prop) :
    Except Halt Reply → Except Halt Reply → Prop
  | .ok (.ok (rest, nodes)), r => ∃ q, next rest q ∧ r = q.map (Reply.behind nodes)
  | stopped, r => r = stopped

/-! ## Taking turns together -/

section Turns

variable {bindings : Bindings} {next later : Window → Except Halt Reply → Prop}
  {q r : Except Halt Reply}

@[simp] theorem map_behind_nil (r : Except Halt Reply) : r.map (Reply.behind []) = r := by
  rcases r with halt | e | ⟨rest, nodes⟩ <;> rfl

theorem map_behind_behind (nodes more : List Node) (r : Except Halt Reply) :
    (r.map (Reply.behind more)).map (Reply.behind nodes) =
      r.map (Reply.behind (nodes ++ more)) := by
  rcases r with halt | e | ⟨rest, nodes⟩
  · rfl
  · rfl
  · simp [Reply.behind]

theorem goesOn_behind {nodes : List Node} :
    GoesOn next (q.map (Reply.behind nodes)) r ↔
      ∃ t, GoesOn next q t ∧ r = t.map (Reply.behind nodes) := by
  rcases q with halt | e | ⟨rest, more⟩
  · simp [GoesOn]
  · simp [GoesOn, Reply.behind]
  · constructor
    · rintro ⟨t, ht, rfl⟩
      exact ⟨_, ⟨t, ht, rfl⟩, (map_behind_behind nodes more t).symm⟩
    · rintro ⟨_, ⟨t, ht, rfl⟩, rfl⟩
      exact ⟨t, ht, map_behind_behind nodes more t⟩

/-- Going on twice. -/
theorem goesOn_goesOn :
    GoesOn (fun w r => ∃ q, next w q ∧ GoesOn later q r) q r ↔
      ∃ t, GoesOn next q t ∧ GoesOn later t r := by
  rcases q with halt | e | ⟨rest, nodes⟩
  · simp [GoesOn]
  · simp [GoesOn]
  · constructor
    · rintro ⟨t, ⟨p, hp, ht⟩, rfl⟩
      exact ⟨_, ⟨p, hp, rfl⟩, goesOn_behind.mpr ⟨t, ht, rfl⟩⟩
    · rintro ⟨_, ⟨p, hp, rfl⟩, hr⟩
      obtain ⟨t, ht, rfl⟩ := goesOn_behind.mp hr
      exact ⟨t, ⟨p, hp, ht⟩, rfl⟩

@[simp] theorem inTurn_nil {w : Window} :
    InTurn bindings [] w r ↔ r = .ok (.ok (w, [])) := by
  constructor
  · intro h
    cases h
    rfl
  · rintro rfl
    exact .nil

theorem inTurn_cons {part : Grammar} {parts : List Grammar} {w : Window} :
    InTurn bindings (part :: parts) w r ↔
      ∃ q, part.RepliesAlone bindings w q ∧ GoesOn (InTurn bindings parts) q r := by
  constructor
  · intro h
    cases h with
    | matched hpart hparts => exact ⟨_, hpart, _, hparts, rfl⟩
    | failed hpart => exact ⟨_, hpart, rfl⟩
    | halted hpart => exact ⟨_, hpart, rfl⟩
  · rintro ⟨halt | e | ⟨rest, nodes⟩, hpart, hgo⟩
    · obtain rfl : r = _ := hgo
      exact .halted hpart
    · obtain rfl : r = _ := hgo
      exact .failed hpart
    · obtain ⟨q, hq, rfl⟩ := hgo
      exact .matched hpart hq

theorem inTurn_singleton {part : Grammar} {w : Window} :
    InTurn bindings [part] w r ↔ part.RepliesAlone bindings w r := by
  rw [inTurn_cons]
  constructor
  · rintro ⟨halt | e | ⟨rest, nodes⟩, hpart, hgo⟩
    · obtain rfl : r = _ := hgo
      exact hpart
    · obtain rfl : r = _ := hgo
      exact hpart
    · obtain ⟨q, hq, rfl⟩ := hgo
      obtain rfl := inTurn_nil.mp hq
      simpa [Reply.behind] using hpart
  · intro hpart
    rcases r with halt | e | ⟨rest, nodes⟩
    · exact ⟨_, hpart, rfl⟩
    · exact ⟨_, hpart, rfl⟩
    · exact ⟨_, hpart, _, .nil, by simp [Reply.behind]⟩

/-- **Turns may be taken together**: those of the front of a list, and then those of the rest. -/
theorem inTurn_append {xs ys : List Grammar} {w : Window} :
    InTurn bindings (xs ++ ys) w r ↔
      ∃ q, InTurn bindings xs w q ∧ GoesOn (InTurn bindings ys) q r := by
  induction xs generalizing w r with
  | nil => simp [GoesOn]
  | cons x xs ih =>
    have hnext : InTurn bindings (xs ++ ys) =
        fun w r => ∃ q, InTurn bindings xs w q ∧ GoesOn (InTurn bindings ys) q r := by
      funext w r
      exact propext ih
    simp only [List.cons_append, inTurn_cons, hnext, goesOn_goesOn]
    constructor
    · rintro ⟨q, hq, t, ht, hr⟩
      exact ⟨t, ⟨q, hq, ht⟩, hr⟩
    · rintro ⟨t, ⟨q, hq, ht⟩, hr⟩
      exact ⟨q, hq, t, ht, hr⟩

theorem InTurn.ne_outOfFuel {parts : List Grammar} {w : Window} (hr : InTurn bindings parts w r) :
    r ≠ .error .outOfFuel := by
  induction hr with
  | nil => exact ok_ne_outOfFuel _
  | @matched _ _ _ _ _ r _ _ ih =>
    rcases r with halt | reply
    · exact ih
    · exact ok_ne_outOfFuel _
  | failed => exact ok_ne_outOfFuel _
  | halted hpart => exact hpart.ne_outOfFuel

end Turns

/-! ## Replies of sequences -/

namespace Repertoire

variable {bindings : Bindings} {S : Grammar → Prop} (h : Repertoire bindings S)
include h

/-- Members reply in turn in one way at most. -/
theorem inTurn_unique {parts : List Grammar} (hparts : ∀ g ∈ parts, S g) {w : Window}
    {r r' : Except Halt Reply} (hr : InTurn bindings parts w r) (hr' : InTurn bindings parts w r') :
    r = r' := by
  induction hr generalizing r' with
  | nil => exact (inTurn_nil.mp hr').symm
  | matched hpart _ ih =>
    obtain ⟨q, hq, hgo⟩ := inTurn_cons.mp hr'
    obtain rfl := h.repliesAlone_unique (hparts _ (.head _)) hpart hq
    obtain ⟨t, ht, rfl⟩ := hgo
    rw [ih (fun g hg => hparts g (.tail _ hg)) ht]
  | failed hpart =>
    obtain ⟨q, hq, hgo⟩ := inTurn_cons.mp hr'
    obtain rfl := h.repliesAlone_unique (hparts _ (.head _)) hpart hq
    exact hgo.symm
  | halted hpart =>
    obtain ⟨q, hq, hgo⟩ := inTurn_cons.mp hr'
    obtain rfl := h.repliesAlone_unique (hparts _ (.head _)) hpart hq
    exact hgo.symm

/-- Where each part replies to what it may be shown, they reply in turn. -/
theorem exists_inTurn {parts : List Grammar} (hparts : ∀ g ∈ parts, S g) {w : Window}
    (hreply : ∀ g ∈ parts, ∀ v, w.Continues v → ∃ r, g.RepliesAlone bindings v r) :
    ∃ r, InTurn bindings parts w r := by
  induction parts generalizing w with
  | nil => exact ⟨_, .nil⟩
  | cons part parts ih =>
    obtain ⟨halt | e | ⟨rest, nodes⟩, hpart⟩ := hreply part (.head _) w (.refl w)
    · exact ⟨_, .halted hpart⟩
    · exact ⟨_, .failed hpart⟩
    · have hc := h.continues_of_repliesAlone (hparts _ (.head _)) hpart
      obtain ⟨r, hr⟩ := ih (fun g hg => hparts g (.tail _ hg))
        fun g hg v hv => hreply g (.tail _ hg) v (hc.trans hv)
      exact ⟨_, .matched hpart hr⟩

/-- The loop over the parts of a sequence, behind the `nodes` made so far. -/
theorem settles_planParts {whole : List Grammar} {factory : Option Factory} {input : Window}
    {r : Except Halt Reply} (hr : r ≠ .error .outOfFuel) {parts : List Grammar}
    (hparts : ∀ g ∈ parts, S g) {cursor : Window} {nodes : List Node}
    (hc : input.Continues cursor) :
    Settles bindings
        ((Production.planParts factory input parts cursor nodes).andThen
          (Production.sequence whole factory).planApplied) r ↔
      ∃ q, InTurn bindings parts cursor q ∧
        r = gathered factory input ((q.map (Reply.behind nodes)).map Reply.inSequence) := by
  induction parts generalizing cursor nodes with
  | nil =>
    rw [Production.planParts, settles_planFinish (fun _ => rfl) hc]
    simp [Reply.behind, Reply.inSequence, gathered]
  | cons part parts ih =>
    have hpart : S part := hparts part (.head _)
    rw [Production.planParts, Plan.ask_andThen, h.settles_ask_iff hpart hr]
    simp only [inTurn_cons]
    constructor
    · rintro (⟨e | ⟨rest, more⟩, hreply, hs⟩ | ⟨halt, hhalt, rfl⟩)
      · exact ⟨_, ⟨_, hreply, rfl⟩, settles_done.mp hs⟩
      · obtain ⟨q, hq, rfl⟩ := (ih (fun g hg => hparts g (.tail _ hg))
          (hc.trans (h.continues_of_repliesAlone hpart hreply))).mp hs
        exact ⟨_, ⟨_, hreply, q, hq, rfl⟩, by rw [map_behind_behind]⟩
      · exact ⟨_, ⟨_, hhalt, rfl⟩, rfl⟩
    · rintro ⟨q, ⟨halt | e | ⟨rest, more⟩, hreply, hgo⟩, rfl⟩
      · obtain rfl : q = _ := hgo
        exact .inr ⟨halt, hreply, rfl⟩
      · obtain rfl : q = _ := hgo
        exact .inl ⟨_, hreply, .done⟩
      · obtain ⟨q, hq, rfl⟩ := hgo
        refine .inl ⟨_, hreply, ?_⟩
        refine (ih (fun g hg => hparts g (.tail _ hg))
          (hc.trans (h.continues_of_repliesAlone hpart hreply))).mpr ⟨q, hq, ?_⟩
        rw [map_behind_behind]

/-- A sequence makes its node of what its parts reply in turn. -/
theorem repliesAlone_sequence {id : ConsumerId} {parts : List Grammar} {factory : Option Factory}
    (hg : S (.memoized id (.sequence parts factory))) {w : Window} {r : Except Halt Reply} :
    (Grammar.memoized id (.sequence parts factory)).RepliesAlone bindings w r ↔
      ∃ q, InTurn bindings parts w q ∧ r = gathered factory w (q.map Reply.inSequence) := by
  have hparts : ∀ g ∈ parts, S g := fun g hmem => h.closed _ g hg (.inl hmem)
  rw [Repetition.repliesAlone_iff h hg]
  constructor
  · rintro ⟨hr, hs⟩
    obtain ⟨q, hq, rfl⟩ := (h.settles_planParts hr hparts (.refl w)).mp hs
    exact ⟨q, hq, by rw [map_behind_nil]⟩
  · rintro ⟨q, hq, rfl⟩
    have hne : gathered factory w (q.map Reply.inSequence) ≠ .error .outOfFuel := by
      refine gathered_ne_outOfFuel ?_
      rcases q with halt | reply
      · exact error_ne_outOfFuel (hq.ne_outOfFuel)
      · exact ok_ne_outOfFuel _
    exact ⟨hne, (h.settles_planParts hne hparts (.refl w)).mpr ⟨q, hq, by rw [map_behind_nil]⟩⟩

/-- **A lifted sequence replies what its parts reply in turn**, with a frame around an error. -/
theorem repliesAlone_liftedSequence {g : Grammar} (hg : S g) {parts : List Grammar}
    (hmade : (Grammar.liftedSequence parts).CanMake g) {w : Window} {r : Except Halt Reply} :
    g.RepliesAlone bindings w r ↔
      ∃ q, InTurn bindings parts w q ∧ r = q.map Reply.inSequence := by
  obtain ⟨id, body, hbody, rfl⟩ := Grammar.exists_of_bind_lifted hmade
  obtain ⟨id', rfl⟩ := Grammar.exists_of_memoize hbody
  rw [h.repliesAlone_lift hg]
  simp only [h.repliesAlone_sequence (h.closed _ _ hg (.inl (.head _)))]
  constructor
  · rintro ⟨made, ⟨q, hq, rfl⟩, rfl⟩
    exact ⟨q, hq, map_lifted_gathered_none _⟩
  · rintro ⟨q, hq, rfl⟩
    exact ⟨_, ⟨q, hq, rfl⟩, (map_lifted_gathered_none _).symm⟩

theorem liftedSequence_matched_iff {g : Grammar} (hg : S g) {parts : List Grammar}
    (hmade : (Grammar.liftedSequence parts).CanMake g) {w : Window} {made : Window × List Node} :
    g.RepliesAlone bindings w (.ok (.ok made)) ↔ InTurn bindings parts w (.ok (.ok made)) := by
  rw [h.repliesAlone_liftedSequence hg hmade]
  constructor
  · rintro ⟨halt | e | made', hq, heq⟩ <;> cases heq
    exact hq
  · intro hq
    exact ⟨_, hq, rfl⟩

theorem liftedSequence_failed_iff {g : Grammar} (hg : S g) {parts : List Grammar}
    (hmade : (Grammar.liftedSequence parts).CanMake g) {w : Window} {e : ParseError} :
    g.RepliesAlone bindings w (.ok (.error e)) ↔
      ∃ e', InTurn bindings parts w (.ok (.error e')) ∧ e = e'.inSequence := by
  rw [h.repliesAlone_liftedSequence hg hmade]
  constructor
  · rintro ⟨halt | e | made', hq, heq⟩ <;> cases heq
    exact ⟨e, hq, rfl⟩
  · rintro ⟨e', hq, rfl⟩
    exact ⟨_, hq, rfl⟩

theorem liftedSequence_halted_iff {g : Grammar} (hg : S g) {parts : List Grammar}
    (hmade : (Grammar.liftedSequence parts).CanMake g) {w : Window} {halt : Halt} :
    g.RepliesAlone bindings w (.error halt) ↔ InTurn bindings parts w (.error halt) := by
  rw [h.repliesAlone_liftedSequence hg hmade]
  constructor
  · rintro ⟨halt | e | made', hq, heq⟩ <;> cases heq
    exact hq
  · intro hq
    exact ⟨_, hq, rfl⟩

theorem parts_of_liftedSequence {g : Grammar} (hg : S g) {parts : List Grammar}
    (hmade : (Grammar.liftedSequence parts).CanMake g) : ∀ part ∈ parts, S part := by
  obtain ⟨id, body, hbody, rfl⟩ := Grammar.exists_of_bind_lifted hmade
  obtain ⟨id', rfl⟩ := Grammar.exists_of_memoize hbody
  have hS := h.closed _ _ hg (.inl (.head _))
  exact fun part hpart => h.closed _ part hS (.inl hpart)

end Repertoire

/-! ## Sequences within sequences -/

/-- In turn from `w` on, all of `xs` match and then one of `ys` fails. -/
def FailsAmong (bindings : Bindings) (xs ys : List Grammar) (w : Window) : Prop :=
  ∃ rest nodes e, InTurn bindings xs w (.ok (.ok (rest, nodes))) ∧
    InTurn bindings ys rest (.ok (.error e))

/-- The same reply, but for a frame of a sequence around it if `framed` holds. -/
def Reframed (framed : Prop) (r q : Except Halt Reply) : Prop :=
  framed ∧ r = q.map Reply.inSequence ∨ ¬ framed ∧ r = q

section Splicing

variable {bindings : Bindings} {framed : Prop} {q r : Except Halt Reply}

theorem map_inSequence_behind (nodes : List Node) (q : Except Halt Reply) :
    (q.map Reply.inSequence).map (Reply.behind nodes) =
      (q.map (Reply.behind nodes)).map Reply.inSequence := by
  rcases q with halt | e | ⟨rest, more⟩ <;> rfl

theorem Reframed.behind (nodes : List Node) (h : Reframed framed r q) :
    Reframed framed (r.map (Reply.behind nodes)) (q.map (Reply.behind nodes)) := by
  rcases h with ⟨hframed, rfl⟩ | ⟨hframed, rfl⟩
  · exact .inl ⟨hframed, map_inSequence_behind nodes q⟩
  · exact .inr ⟨hframed, rfl⟩

theorem Reframed.inSequence (h : Reframed framed r q) :
    Reframed framed (r.map Reply.inSequence) (q.map Reply.inSequence) := by
  rcases h with ⟨hframed, rfl⟩ | ⟨hframed, rfl⟩
  · exact .inl ⟨hframed, rfl⟩
  · exact .inr ⟨hframed, rfl⟩

theorem Reframed.gathered {factory : Option Factory} {input : Window} (h : Reframed framed r q) :
    Reframed framed (gathered factory input r) (Packrat.gathered factory input q) := by
  rcases h with ⟨hframed, rfl⟩ | ⟨hframed, rfl⟩
  · refine .inl ⟨hframed, ?_⟩
    rcases q with halt | e | ⟨rest, nodes⟩
    · rfl
    · rfl
    · show Repetition.accepted factory input rest nodes = Except.map _ (Repetition.accepted ..)
      rw [Repetition.accepted]
      cases Factory.createWith factory (input.taken rest) nodes <;> rfl
  · exact .inr ⟨hframed, rfl⟩

theorem Reframed.unique {r' : Except Halt Reply} (h : Reframed framed r q)
    (h' : Reframed framed r' q) : r = r' := by
  rcases h with ⟨hframed, rfl⟩ | ⟨hframed, rfl⟩
  · exact (h'.resolve_right fun hnot => hnot.1 hframed).2.symm
  · exact (h'.resolve_left fun hyes => hframed hyes.1).2.symm

/-- What goes on behind a reply is reframed as the reply is, if only errors are. -/
theorem goesOn_of_reframed {next : Window → Except Halt Reply → Prop} {p : Except Halt Reply}
    (hp : Reframed framed p q) (herror : framed → ∃ e, q = .ok (.error e)) :
    GoesOn next p r ↔ ∃ t, GoesOn next q t ∧ Reframed framed r t := by
  rcases hp with ⟨hframed, rfl⟩ | ⟨hframed, rfl⟩
  · obtain ⟨e, rfl⟩ := herror hframed
    constructor
    · intro hr
      exact ⟨_, rfl, .inl ⟨hframed, hr⟩⟩
    · rintro ⟨t, ht, ⟨-, rfl⟩ | ⟨hnot, -⟩⟩
      · obtain rfl : t = _ := ht
        rfl
      · exact absurd hframed hnot
  · constructor
    · intro hr
      exact ⟨r, hr, .inr ⟨hframed, rfl⟩⟩
    · rintro ⟨t, ht, ⟨hyes, -⟩ | ⟨-, rfl⟩⟩
      · exact absurd hyes hframed
      · exact ht

theorem exists_reframed (framed : Prop) (q : Except Halt Reply) : ∃ p, Reframed framed p q := by
  by_cases hframed : framed
  · exact ⟨_, .inl ⟨hframed, rfl⟩⟩
  · exact ⟨q, .inr ⟨hframed, rfl⟩⟩

variable {S : Grammar → Prop} (h : Repertoire bindings S) {xs ys zs : List Grammar}
  {inner : Grammar} {w : Window}

include h in
/-- The reply of a lifted sequence is that of its parts, reframed if one of them fails. -/
theorem repliesAlone_iff_reframed (hinner : S inner)
    (hmade : (Grammar.liftedSequence ys).CanMake inner) {p : Except Halt Reply} :
    inner.RepliesAlone bindings w p ↔
      ∃ q, InTurn bindings ys w q ∧ Reframed (∃ e, InTurn bindings ys w (.ok (.error e))) p q := by
  rw [h.repliesAlone_liftedSequence hinner hmade]
  refine exists_congr fun q => and_congr_right fun hq => ?_
  by_cases hframed : ∃ e, InTurn bindings ys w (.ok (.error e))
  · simp [Reframed, hframed]
  · have hsame : q.map Reply.inSequence = q := by
      rcases q with halt | e | ⟨rest, nodes⟩
      · rfl
      · exact absurd ⟨e, hq⟩ hframed
      · rfl
    simp [Reframed, hframed, hsame]

include h in
/-- A lifted sequence in front of other parts. -/
theorem inTurn_liftedSequence_cons (hinner : S inner)
    (hmade : (Grammar.liftedSequence ys).CanMake inner) :
    InTurn bindings (inner :: zs) w r ↔
      ∃ t, InTurn bindings (ys ++ zs) w t ∧
        Reframed (∃ e, InTurn bindings ys w (.ok (.error e))) r t := by
  have hys := h.parts_of_liftedSequence hinner hmade
  have herror : ∀ q, InTurn bindings ys w q → (∃ e, InTurn bindings ys w (.ok (.error e))) →
      ∃ e, q = .ok (.error e) := fun q hq ⟨e, he⟩ => ⟨e, h.inTurn_unique hys hq he⟩
  rw [inTurn_cons]
  constructor
  · rintro ⟨p, hp, hgo⟩
    obtain ⟨q, hq, hpq⟩ := (repliesAlone_iff_reframed h hinner hmade).mp hp
    obtain ⟨t, ht, hrt⟩ := (goesOn_of_reframed hpq (herror q hq)).mp hgo
    exact ⟨t, inTurn_append.mpr ⟨q, hq, ht⟩, hrt⟩
  · rintro ⟨t, ht, hrt⟩
    obtain ⟨q, hq, ht⟩ := inTurn_append.mp ht
    obtain ⟨p, hpq⟩ := exists_reframed (∃ e, InTurn bindings ys w (.ok (.error e))) q
    exact ⟨p, (repliesAlone_iff_reframed h hinner hmade).mpr ⟨q, hq, hpq⟩,
      (goesOn_of_reframed hpq (herror q hq)).mpr ⟨t, ht, hrt⟩⟩

include h in
/-- Where all of `xs` match, the next failure decides. -/
theorem failsAmong_iff (hxs : ∀ g ∈ xs, S g) {rest : Window} {nodes : List Node}
    (hp : InTurn bindings xs w (.ok (.ok (rest, nodes)))) :
    FailsAmong bindings xs ys w ↔ ∃ e, InTurn bindings ys rest (.ok (.error e)) := by
  constructor
  · rintro ⟨rest', nodes', e, hp', he⟩
    cases h.inTurn_unique hxs hp hp'
    exact ⟨e, he⟩
  · rintro ⟨e, he⟩
    exact ⟨rest, nodes, e, hp, he⟩

include h in
/-- **A lifted sequence among other parts** takes its turns as its own parts would in its place. -/
theorem inTurn_splice (hxs : ∀ g ∈ xs, S g) (hinner : S inner)
    (hmade : (Grammar.liftedSequence ys).CanMake inner) :
    InTurn bindings (xs ++ [inner] ++ zs) w r ↔
      ∃ t, InTurn bindings (xs ++ ys ++ zs) w t ∧ Reframed (FailsAmong bindings xs ys w) r t := by
  rw [List.append_assoc, List.append_assoc, List.singleton_append]
  -- Where `xs` do not all match, the parts behind them have no turn.
  have hstops : ∀ p, InTurn bindings xs w p → (∀ made, p ≠ .ok (.ok made)) →
      ¬ FailsAmong bindings xs ys w := by
    rintro p hp hne ⟨rest, nodes, e, hp', -⟩
    exact hne _ (h.inTurn_unique hxs hp hp')
  constructor
  · intro hr
    obtain ⟨p, hp, hgo⟩ := inTurn_append.mp hr
    rcases p with halt | e | ⟨rest, nodes⟩
    · exact ⟨_, inTurn_append.mpr ⟨_, hp, rfl⟩, .inr ⟨hstops _ hp nofun, hgo⟩⟩
    · exact ⟨_, inTurn_append.mpr ⟨_, hp, rfl⟩, .inr ⟨hstops _ hp nofun, hgo⟩⟩
    · obtain ⟨q, hq, rfl⟩ := hgo
      obtain ⟨t, ht, hqt⟩ := (inTurn_liftedSequence_cons h hinner hmade).mp hq
      refine ⟨_, inTurn_append.mpr ⟨_, hp, t, ht, rfl⟩, ?_⟩
      rw [failsAmong_iff h hxs hp]
      exact hqt.behind nodes
  · rintro ⟨t, ht, hrt⟩
    obtain ⟨p, hp, hgo⟩ := inTurn_append.mp ht
    refine inTurn_append.mpr ⟨p, hp, ?_⟩
    rcases p with halt | e | ⟨rest, nodes⟩
    · obtain rfl : t = _ := hgo
      exact (hrt.resolve_left fun hyes => hstops _ hp nofun hyes.1).2
    · obtain rfl : t = _ := hgo
      exact (hrt.resolve_left fun hyes => hstops _ hp nofun hyes.1).2
    · obtain ⟨q, hq, rfl⟩ := hgo
      rw [failsAmong_iff h hxs hp] at hrt
      obtain ⟨q', hqq'⟩ := exists_reframed (∃ e, InTurn bindings ys rest (.ok (.error e))) q
      refine ⟨q', (inTurn_liftedSequence_cons h hinner hmade).mpr ⟨q, hq, hqq'⟩, ?_⟩
      exact hrt.unique (hqq'.behind nodes)

include h in
/-- A sequence with a lifted one among its parts. -/
theorem repliesAlone_nested_sequence {S' : Grammar → Prop} (h' : Repertoire bindings S')
    (hmade : (Grammar.liftedSequence ys).CanMake inner) {id id' : ConsumerId}
    {factory : Option Factory}
    (hnested : S (.memoized id (.sequence (xs ++ [inner] ++ zs) factory)))
    (hflat : S' (.memoized id' (.sequence (xs ++ ys ++ zs) factory))) :
    (Grammar.memoized id (.sequence (xs ++ [inner] ++ zs) factory)).RepliesAlone bindings w r ↔
      ∃ q, (Grammar.memoized id' (.sequence (xs ++ ys ++ zs) factory)).RepliesAlone bindings w q ∧
        Reframed (FailsAmong bindings xs ys w) r q := by
  have hmember : ∀ g ∈ xs ++ [inner] ++ zs, S g := fun g hg => h.closed _ g hnested (.inl hg)
  have hxs : ∀ g ∈ xs, S g := fun g hg => hmember g (by simp [hg])
  have hinner : S inner := hmember inner (by simp)
  rw [h.repliesAlone_sequence hnested]
  constructor
  · rintro ⟨t, ht, rfl⟩
    obtain ⟨q, hq, htq⟩ := (inTurn_splice h hxs hinner hmade).mp ht
    exact ⟨_, (h'.repliesAlone_sequence hflat).mpr ⟨q, hq, rfl⟩, htq.inSequence.gathered⟩
  · rintro ⟨_, hreply, hr⟩
    obtain ⟨q, hq, rfl⟩ := (h'.repliesAlone_sequence hflat).mp hreply
    obtain ⟨t, htq⟩ := exists_reframed (FailsAmong bindings xs ys w) q
    exact ⟨t, (inTurn_splice h hxs hinner hmade).mpr ⟨q, hq, htq⟩,
      hr.unique htq.inSequence.gathered⟩

end Splicing

/-! ## The errors of nested sequences -/

namespace ParseError

variable {framed : Prop} {e e' : ParseError}

/-- The error without its context: its kind, its words, its place and its cause. -/
def withoutContext : ParseError → ParseError
  | mismatch message position _ => mismatch message position none
  | noAlternative position _ => noAlternative position none
  | remainingInput remaining position _ => remainingInput remaining position none
  | fatal message position _ cause => fatal message position none cause
  | inconsistent message position => inconsistent message position

theorem eq_of_withoutContext (h : e.withoutContext = e'.withoutContext)
    (hcontext : e.context = e'.context) : e = e' := by
  cases e <;> cases e' <;> simp_all [withoutContext, context]

@[simp] theorem withoutContext_withContext (frame : String) (e : ParseError) :
    (e.withContext frame).withoutContext = e.withoutContext := by
  cases e <;> rfl

/-- The errors agree in all but their contexts, and there too if no one may recover from them.  If
`framed` holds, `e` has one more frame of a sequence around it, and else they are the same. -/
structure SameButFrame (framed : Prop) (e e' : ParseError) : Prop where
  withoutContext_eq : e.withoutContext = e'.withoutContext
  eq_of_fatal : e'.isRecoverable = false → e = e'
  context_eq : framed → e'.isRecoverable = true →
    e.context = chain "Sequence failed" e'.context
  eq_of_not_framed : ¬ framed → e = e'

theorem sameButFrame_iff :
    e.SameButFrame framed e' ↔ framed ∧ e = e'.inSequence ∨ ¬ framed ∧ e = e' := by
  rw [inSequence]
  constructor
  · intro h
    by_cases hframed : framed
    · refine .inl ⟨hframed, ?_⟩
      split
      · refine eq_of_withoutContext ?_ ?_
        · rw [h.withoutContext_eq, withoutContext_withContext]
        · rw [h.context_eq hframed ‹_›, context_withContext _ ‹_›]
      · exact h.eq_of_fatal (Bool.eq_false_iff.mpr ‹_›)
    · exact .inr ⟨hframed, h.eq_of_not_framed hframed⟩
  · rintro (⟨hframed, rfl⟩ | ⟨hframed, rfl⟩)
    · split
      · exact ⟨withoutContext_withContext _ _, fun hfatal => by simp_all,
          fun _ hrecoverable => context_withContext _ hrecoverable, fun hnot => absurd hframed hnot⟩
      · exact ⟨rfl, fun _ => rfl, fun _ hrecoverable => absurd hrecoverable ‹_›, fun _ => rfl⟩
    · exact ⟨rfl, fun _ => rfl, fun hyes => absurd hyes hframed, fun _ => rfl⟩

theorem exists_sameButFrame (framed : Prop) (e' : ParseError) :
    ∃ e : ParseError, e.SameButFrame framed e' := by
  simp only [sameButFrame_iff]
  by_cases hframed : framed
  · exact ⟨_, .inl ⟨hframed, rfl⟩⟩
  · exact ⟨_, .inr ⟨hframed, rfl⟩⟩

end ParseError

section Reframing

variable {framed : Prop} {q : Except Halt Reply}

theorem reframed_matched_iff {made : Window × List Node} :
    Reframed framed (.ok (.ok made)) q ↔ q = .ok (.ok made) := by
  by_cases hframed : framed
  · rcases q with halt | e | made' <;> simp [Reframed, hframed, Reply.inSequence, eq_comm]
  · simp [Reframed, hframed, eq_comm]

theorem reframed_halted_iff {halt : Halt} :
    Reframed framed (.error halt) q ↔ q = .error halt := by
  by_cases hframed : framed
  · rcases q with halt | e | made' <;> simp [Reframed, hframed, Reply.inSequence, eq_comm]
  · simp [Reframed, hframed, eq_comm]

theorem reframed_failed_iff {e : ParseError} :
    Reframed framed (.ok (.error e)) q ↔
      ∃ e', q = .ok (.error e') ∧ e.SameButFrame framed e' := by
  simp only [ParseError.sameButFrame_iff]
  by_cases hframed : framed
  · rcases q with halt | e | made' <;> simp [Reframed, hframed, Reply.inSequence]
  · simp [Reframed, hframed, eq_comm]

end Reframing

/-- **Sequences are associative under lifting.**  A sequence with a lifted sequence of `ys` among
its parts matches where the one with `ys` among its own does, with the same nodes, and fails with
the same errors: only one that comes out of `ys`, and that someone may recover from, has one more
frame in its context. -/
theorem nested_sequence_answers_iff {env : Environment} {S S' : Grammar → Prop}
    (h : Repertoire env.bindings S) (h' : Repertoire env.bindings S') {xs ys zs : List Grammar}
    {inner : Grammar} (hmade : (Grammar.liftedSequence ys).CanMake inner) {id id' : ConsumerId}
    {factory : Option Factory}
    (hnested : S (.memoized id (.sequence (xs ++ [inner] ++ zs) factory)))
    (hflat : S' (.memoized id' (.sequence (xs ++ ys ++ zs) factory))) {w : Window} {s s' : Session}
    (hs : s.Reached env S w.buffer) (hs' : s'.Reached env S' w.buffer) (parent : NodeBuilder) :
    let nested : Grammar := .memoized id (.sequence (xs ++ [inner] ++ zs) factory)
    let flat : Grammar := .memoized id' (.sequence (xs ++ ys ++ zs) factory)
    (∀ rest after, nested.Answers env w parent s (.ok ⟨.ok rest, after⟩) ↔
      flat.Answers env w parent s' (.ok ⟨.ok rest, after⟩)) ∧
    (∀ e after, nested.Answers env w parent s (.ok ⟨.error e, after⟩) ↔
      ∃ e', flat.Answers env w parent s' (.ok ⟨.error e', after⟩) ∧
        e.SameButFrame (FailsAmong env.bindings xs ys w) e') ∧
    (∀ after, (∃ e, nested.Answers env w parent s (.ok ⟨.error e, after⟩)) ↔
      ∃ e', flat.Answers env w parent s' (.ok ⟨.error e', after⟩)) ∧
    ∀ halt, nested.Answers env w parent s (.error halt) ↔
      flat.Answers env w parent s' (.error halt) := by
  intro nested flat
  have hreplies : ∀ r, nested.RepliesAlone env.bindings w r ↔
      ∃ q, flat.RepliesAlone env.bindings w q ∧
        Reframed (FailsAmong env.bindings xs ys w) r q := fun _ =>
    repliesAlone_nested_sequence h h' hmade hnested hflat
  have hfailed : ∀ e after, nested.Answers env w parent s (.ok ⟨.error e, after⟩) ↔
      ∃ e', flat.Answers env w parent s' (.ok ⟨.error e', after⟩) ∧
        e.SameButFrame (FailsAmong env.bindings xs ys w) e' := by
    intro e after
    rw [h.answers_failed_iff hnested hs]
    simp only [h'.answers_failed_iff hflat hs', nested, flat, hreplies, reframed_failed_iff]
    constructor
    · rintro ⟨rfl, _, hq, e', rfl, he⟩
      exact ⟨e', ⟨rfl, hq⟩, he⟩
    · rintro ⟨e', ⟨rfl, hq⟩, he⟩
      exact ⟨rfl, _, hq, e', rfl, he⟩
  refine ⟨fun rest after => ?_, hfailed, fun after => ⟨?_, ?_⟩, fun halt => ?_⟩
  · rw [h.answers_matched_iff hnested hs, h'.answers_matched_iff hflat hs']
    simp only [nested, flat, hreplies, reframed_matched_iff, exists_eq_right]
  · rintro ⟨e, he⟩
    obtain ⟨e', he', -⟩ := (hfailed e after).mp he
    exact ⟨e', he'⟩
  · rintro ⟨e', he'⟩
    obtain ⟨e, hframe⟩ := ParseError.exists_sameButFrame (FailsAmong env.bindings xs ys w) e'
    exact ⟨e, (hfailed e after).mpr ⟨e', he', hframe⟩⟩
  · rw [h.answers_halted_iff hnested hs, h'.answers_halted_iff hflat hs']
    simp only [nested, flat, hreplies, reframed_halted_iff, exists_eq_right]

/-- The third of four letters is missing, which is the second one of the nested sequence: its error
comes out of two frames.  The table holds what an earlier try has left. -/
theorem letters_nested_sequence_answers_iff :
    let a : Grammar := .exact "a" none
    let parts : List Grammar := [.exact "b" none, .exact "c" none]
    let d : Grammar := .exact "d" none
    let factory := some (Factory.constant (.ofPayload .unit))
    let inner : Grammar := .memoized ⟨2⟩ (.lift (.memoized ⟨1⟩ (.sequence parts none)) none)
    let nested : Grammar := .memoized ⟨3⟩ (.sequence ([a] ++ [inner] ++ [d]) factory)
    let flat : Grammar := .memoized ⟨4⟩ (.sequence ([a] ++ parts ++ [d]) factory)
    let w := Window.ofText "abd"
    let env : Environment := ⟨[], true⟩
    let s := ((nested.consume env 9 w .empty).exec {}).2
    Repertoire env.bindings (· ∈ nested.subgrammars) ∧
      Repertoire env.bindings (· ∈ flat.subgrammars) ∧
      (Grammar.liftedSequence parts).CanMake inner ∧
      s.Reached env (· ∈ nested.subgrammars) w.buffer ∧
      FailsAmong env.bindings [a] parts w ∧
      ∃ e e', nested.Answers env w .empty s (.ok ⟨.error e, .empty⟩) ∧
        flat.Answers env w .empty {} (.ok ⟨.error e', .empty⟩) ∧
        e.SameButFrame (FailsAmong env.bindings [a] parts w) e' ∧
        e.context = some "Sequence failed -> Sequence failed" := by
  intro a parts d factory inner nested flat w env s
  have h : Repertoire env.bindings (· ∈ nested.subgrammars) := .of_nodup (by decide) (by decide)
  have h' : Repertoire env.bindings (· ∈ flat.subgrammars) := .of_nodup (by decide) (by decide)
  have hmade : (Grammar.liftedSequence parts).CanMake inner := ⟨⟨1, 0⟩, _, rfl⟩
  have hnested : nested ∈ nested.subgrammars := Grammar.self_mem_subgrammars nested
  have hflat : flat ∈ flat.subgrammars := Grammar.self_mem_subgrammars flat
  have hs : s.Reached env (· ∈ nested.subgrammars) w.buffer :=
    .consumed 9 .empty (.fresh rfl) hnested rfl
  have hs' : ({} : Session).Reached env (· ∈ flat.subgrammars) w.buffer := .fresh rfl
  let second : Window := ⟨w.buffer, 1, 3, by decide, by decide⟩
  let third : Window := ⟨w.buffer, 2, 3, by decide, by decide⟩
  have hfirst : a.RepliesAlone env.bindings w
      (.ok (.ok (second, [⟨some ⟨0, 1⟩, some "a", none, []⟩]))) := ⟨ok_ne_outOfFuel _, 1, by rfl⟩
  have hsecond : (Grammar.exact "b" none).RepliesAlone env.bindings second
      (.ok (.ok (third, [⟨some ⟨1, 2⟩, some "b", none, []⟩]))) := ⟨ok_ne_outOfFuel _, 1, by rfl⟩
  have hthird : (Grammar.exact "c" none).RepliesAlone env.bindings third
      (.ok (.error (.mismatch "Token mismatch (c)" 2 none))) := ⟨ok_ne_outOfFuel _, 1, by rfl⟩
  have hfails : FailsAmong env.bindings [a] parts w :=
    ⟨_, _, _, inTurn_singleton.mpr hfirst, .matched hsecond (.failed hthird)⟩
  obtain ⟨e, hreply, hcontext⟩ : ∃ e, nested.RepliesAlone env.bindings w (.ok (.error e)) ∧
      e.context = some "Sequence failed -> Sequence failed" :=
    ⟨_, ⟨ok_ne_outOfFuel _, 5, by rfl⟩, by rfl⟩
  have hanswers : nested.Answers env w .empty s (.ok ⟨.error e, .empty⟩) :=
    (h.answers_failed_iff hnested hs).mpr ⟨rfl, hreply⟩
  obtain ⟨e', hanswers', hframe⟩ :=
    ((nested_sequence_answers_iff h h' hmade hnested hflat hs hs' .empty).2.1 e .empty).mp hanswers
  exact ⟨h, h', hmade, hs, hfails, e, e', hanswers, hanswers', hframe, hcontext⟩

end Packrat
