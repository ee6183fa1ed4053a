import Packrat.Proofs.Choices
import Packrat.Proofs.Sequences

/-! # What a delimited list takes

A list is an item and then **pairs** of a delimiter and an item (`Pairs`), up to a pair that fails
in either half or that takes nothing.  A delimiter without an item behind it is therefore left.

`delimited` builds its lists in two ways, for the lists that may be empty and for those that may
not, out of sequences, repetitions and lifts.  Both reply the same (`ListReply`,
`Repertoire.repliesAlone_delimited`): one node with the nodes of all items and delimiters in order.

A common idiom tries a list of two items or more, and then a single item, so that a single item gets
no node around it.  It takes what the list of one item or more takes (`operator_idiom_answers_iff`).
-/
namespace Packrat

open Repetition (Match Ending restAfter Chain accepted)

/-- The pairs of a delimiter and an item from a window on, each where the one before it stopped, and
none behind one that takes nothing. -/
inductive Pairs (bindings : Bindings) (item delimiter : Grammar) :
    Window → List Match → Ending → Prop
  | refused {cursor : Window} {e : ParseError} :
      InTurn bindings [delimiter, item] cursor (.ok (.error e)) → e.isRecoverable = true →
      Pairs bindings item delimiter cursor [] .refused
  | failed {cursor : Window} {e : ParseError} :
      InTurn bindings [delimiter, item] cursor (.ok (.error e)) → e.isRecoverable = false →
      Pairs bindings item delimiter cursor [] (.failed e)
  | halted {cursor : Window} {halt : Halt} :
      InTurn bindings [delimiter, item] cursor (.error halt) →
      Pairs bindings item delimiter cursor [] (.halted halt)
  | idle {cursor : Window} {pair : Match} :
      InTurn bindings [delimiter, item] cursor (.ok (.ok (pair.rest, pair.nodes))) →
      pair.rest.start = cursor.start → Pairs bindings item delimiter cursor [pair] .idle
  | pair {cursor : Window} {pair : Match} {pairs : List Match} {ending : Ending} :
      InTurn bindings [delimiter, item] cursor (.ok (.ok (pair.rest, pair.nodes))) →
      pair.rest.start ≠ cursor.start → Pairs bindings item delimiter pair.rest pairs ending →
      Pairs bindings item delimiter cursor (pair :: pairs) ending

/-- The items of a list from `w` on: the first one and the pairs behind it. -/
structure Items (bindings : Bindings) (item delimiter : Grammar) (w : Window) (first : Match)
    (pairs : List Match) (ending : Ending) : Prop where
  item_matches : item.RepliesAlone bindings w (.ok (.ok (first.rest, first.nodes)))
  pairs_follow : Pairs bindings item delimiter first.rest pairs ending

/-- There are enough items for a list of `min`: the pairs end in a refusal and with the first item
there are that many, or they end in one that could be repeated for ever. -/
def EnoughItems (min : Nat) (pairs : List Match) (ending : Ending) : Prop :=
  ending = .refused ∧ min ≤ 1 + pairs.length ∨ ending = .idle

/-- The node of a list on `w` up to `rest`. -/
def listNode (w rest : Window) (children : List Node) : Node :=
  ⟨some ⟨w.start, rest.start⟩, none, none, children⟩

/-- The error of a list with `count` pairs behind its first item, which are too few. -/
def ParseError.tooFewPairs (min : Nat) (cursor : Window) (count : Nat) : ParseError :=
  .mismatch ("Out of bounds (" ++ toString count ++ " < " ++ toString (min - 1) ++ ")") cursor.start
    (some "Sequence failed")

/-- What a list of at least `min` items replies on `w`. -/
inductive ListReply (bindings : Bindings) (min : Nat) (item delimiter : Grammar) (w : Window) :
    Except Halt Reply → Prop
  | empty : min = 0 → item.Refuses bindings w →
      ListReply bindings min item delimiter w (.ok (.ok (w, [listNode w w []])))
  | refused {e : ParseError} :
      min ≠ 0 → e.isRecoverable = true → item.RepliesAlone bindings w (.ok (.error e)) →
      ListReply bindings min item delimiter w (.ok (.error e.inSequence))
  | failed {e : ParseError} :
      e.isRecoverable = false → item.RepliesAlone bindings w (.ok (.error e)) →
      ListReply bindings min item delimiter w (.ok (.error e))
  | halted {halt : Halt} :
      item.RepliesAlone bindings w (.error halt) →
      ListReply bindings min item delimiter w (.error halt)
  | enough {first : Match} {pairs : List Match} {ending : Ending} :
      Items bindings item delimiter w first pairs ending → EnoughItems min pairs ending →
      ListReply bindings min item delimiter w
        (.ok (.ok (restAfter first.rest pairs, [listNode w (restAfter first.rest pairs)
          (first.nodes ++ pairs.flatMap (·.nodes))])))
  | tooFew {first : Match} {pairs : List Match} :
      Items bindings item delimiter w first pairs .refused → 1 + pairs.length < min →
      ListReply bindings min item delimiter w
        (.ok (.error (.tooFewPairs min first.rest pairs.length)))
  | pairFailed {first : Match} {pairs : List Match} {e : ParseError} :
      e.isRecoverable = false → Items bindings item delimiter w first pairs (.failed e) →
      ListReply bindings min item delimiter w (.ok (.error e))
  | pairHalted {first : Match} {pairs : List Match} {halt : Halt} :
      Items bindings item delimiter w first pairs (.halted halt) →
      ListReply bindings min item delimiter w (.error halt)

/-! ## The pairs of a tail -/

section Tails

variable {bindings : Bindings} {S : Grammar → Prop} (h : Repertoire bindings S)
  {item delimiter tail : Grammar} (htail : S tail)
  (hmade : (Grammar.liftedSequence [delimiter, item]).CanMake tail) {cursor : Window}
  {pairs : List Match} {ending : Ending}

include h htail hmade in
/-- **The matches of a tail are pairs.**  The error behind the last one has no frame around it, as
no one recovers from it. -/
theorem chain_tail_iff :
    Chain bindings tail none cursor pairs ending ↔
      Pairs bindings item delimiter cursor pairs ending := by
  constructor
  · intro hchain
    generalize hleft : (none : Option Nat) = left at hchain
    induction hchain with
    | full => cases hleft
    | refused _ hreply hrecoverable =>
      obtain ⟨e, he, rfl⟩ := (h.liftedSequence_failed_iff htail hmade).mp hreply
      exact .refused he (by simpa using hrecoverable)
    | failed _ hreply hfatal =>
      obtain ⟨e, he, rfl⟩ := (h.liftedSequence_failed_iff htail hmade).mp hreply
      rw [ParseError.isRecoverable_inSequence] at hfatal
      rw [ParseError.inSequence_of_not_isRecoverable hfatal]
      exact .failed he hfatal
    | halted _ hreply => exact .halted ((h.liftedSequence_halted_iff htail hmade).mp hreply)
    | idle hreply hidle => exact .idle ((h.liftedSequence_matched_iff htail hmade).mp hreply) hidle
    | link _ hreply hmoves _ ih =>
      subst hleft
      exact .pair ((h.liftedSequence_matched_iff htail hmade).mp hreply) (hmoves rfl) (ih rfl)
  · intro hpairs
    have hleft : (none : Option Nat) ≠ some 0 := nofun
    induction hpairs with
    | refused he hrecoverable =>
      exact .refused hleft ((h.liftedSequence_failed_iff htail hmade).mpr ⟨_, he, rfl⟩)
        (by simpa using hrecoverable)
    | failed he hfatal =>
      have hreply := (h.liftedSequence_failed_iff htail hmade).mpr ⟨_, he, rfl⟩
      rw [ParseError.inSequence_of_not_isRecoverable hfatal] at hreply
      exact .failed hleft hreply hfatal
    | halted hhalt => exact .halted hleft ((h.liftedSequence_halted_iff htail hmade).mpr hhalt)
    | idle hpair hidle => exact .idle ((h.liftedSequence_matched_iff htail hmade).mpr hpair) hidle
    | pair hpair hmoves _ ih =>
      exact .link hleft ((h.liftedSequence_matched_iff htail hmade).mpr hpair) (fun _ => hmoves) ih

theorem Pairs.isRecoverable_eq_false {e : ParseError}
    (hpairs : Pairs bindings item delimiter cursor pairs (.failed e)) :
    e.isRecoverable = false := by
  generalize hending : Ending.failed e = ending at hpairs
  induction hpairs with
  | failed _ hfatal =>
    cases hending
    exact hfatal
  | pair _ _ _ ih => exact ih hending
  | _ => cases hending

end Tails

/-! ## Replies of lists -/

/-- The reply of a list for that of its items: a list that may be empty takes nothing where there is
no first item. -/
def Reply.ofList (min : Nat) (w : Window) (reply : Reply) : Reply :=
  match min with
  | 0 => reply.inSequence.orNothing w
  | _ + 1 => reply.inSequence

section Lists

variable {bindings : Bindings} {min : Nat} {w : Window}

@[simp] theorem Reply.ofList_ok (made : Window × List Node) :
    Reply.ofList min w (.ok made) = .ok made := by
  cases min <;> rfl

theorem Reply.ofList_of_fatal {e : ParseError} (he : e.isRecoverable = false) :
    Reply.ofList min w (.error e) = .error e := by
  cases min <;>
    simp [Reply.ofList, Reply.inSequence, Reply.orNothing, Except.mapError,
      ParseError.inSequence_of_not_isRecoverable he, he]

theorem Reply.ofList_of_pos {e : ParseError} (hmin : min ≠ 0) :
    Reply.ofList min w (.error e) = .error e.inSequence := by
  obtain ⟨min, rfl⟩ := Nat.exists_eq_succ_of_ne_zero hmin
  rfl

theorem Reply.ofList_of_zero {e : ParseError} (hmin : min = 0) (he : e.isRecoverable = true) :
    Reply.ofList min w (.error e) = .ok (w, []) := by
  subst hmin
  simp [Reply.ofList, Reply.inSequence, Reply.orNothing, Except.mapError, he]

/-- The frame around an optional list does not show: an error that comes out of it is fatal. -/
theorem map_ofList_zero (q : Except Halt Reply) :
    ((q.map Reply.inSequence).map (Reply.orNothing w)).map Reply.inSequence =
      q.map (Reply.ofList 0 w) := by
  rcases q with halt | e | made
  · rfl
  · cases he : e.isRecoverable with
    | true =>
      simp [Reply.ofList_of_zero rfl he, Except.map, Except.mapError, Reply.inSequence,
        Reply.orNothing, he]
    | false =>
      simp [Reply.ofList_of_fatal he, Except.map, Except.mapError, Reply.inSequence,
        Reply.orNothing, he, ParseError.inSequence_of_not_isRecoverable he]
  · rfl

/-- The reply of a list whose tail is repeated up to `ending`, behind its first item: the layers of
repetition, lift and sequence around it, as they are built. -/
def listOf (min : Nat) (w : Window) (first : Match) (pairs : List Match) (ending : Ending) :
    Except Halt Reply :=
  gathered none w
    ((((ending.reply (min - 1) none first.rest pairs).map Reply.lifted).map
      (Reply.behind first.nodes)).map (Reply.ofList min w))

variable {item delimiter : Grammar} {e : ParseError} {first : Match} {pairs : List Match}
  {ending : Ending}

/-- The node of a list has the nodes of its first item and of its pairs below it. -/
theorem listOf_of_enough (henough : EnoughItems min pairs ending) :
    listOf min w first pairs ending =
      .ok (.ok (restAfter first.rest pairs, [listNode w (restAfter first.rest pairs)
        (first.nodes ++ pairs.flatMap (·.nodes))])) := by
  have haccepted : ending.reply (min - 1) none first.rest pairs =
      accepted none first.rest (restAfter first.rest pairs) (pairs.flatMap (·.nodes)) := by
    rcases henough with ⟨rfl, hmin⟩ | rfl
    · exact if_neg (by omega)
    · rfl
  rw [listOf, haccepted, accepted_none]
  simp [Reply.lifted, Reply.behind, gathered, accepted_none, listNode]

theorem listOf_refused (hfew : 1 + pairs.length < min) :
    listOf min w first pairs .refused =
      .ok (.error (.tooFewPairs min first.rest pairs.length)) := by
  have hrejected : Ending.refused.reply (min - 1) none first.rest pairs =
      Repetition.rejected (min - 1) first.rest pairs.length := if_pos (by omega)
  rw [listOf, hrejected]
  exact congrArg (gathered none w ∘ .ok) (Reply.ofList_of_pos (by omega))

theorem listOf_failed (he : e.isRecoverable = false) :
    listOf min w first pairs (.failed e) = .ok (.error e) :=
  congrArg (gathered none w ∘ .ok) (Reply.ofList_of_fatal he)

theorem Pairs.ne_full (hpairs : Pairs bindings item delimiter w pairs ending) : ending ≠ .full := by
  induction hpairs with
  | pair _ _ _ ih => exact ih
  | _ => nofun

theorem listReply_of_items (hitems : Items bindings item delimiter w first pairs ending) :
    ListReply bindings min item delimiter w (listOf min w first pairs ending) := by
  cases ending with
  | full => exact absurd rfl hitems.pairs_follow.ne_full
  | refused =>
    by_cases hfew : 1 + pairs.length < min
    · rw [listOf_refused hfew]
      exact .tooFew hitems hfew
    · have henough : EnoughItems min pairs .refused := .inl ⟨rfl, Nat.not_lt.mp hfew⟩
      rw [listOf_of_enough henough]
      exact .enough hitems henough
  | idle =>
    have henough : EnoughItems min pairs .idle := .inr rfl
    rw [listOf_of_enough henough]
    exact .enough hitems henough
  | failed e =>
    have he := hitems.pairs_follow.isRecoverable_eq_false
    rw [listOf_failed he]
    exact .pairFailed he hitems
  | halted halt => exact .pairHalted hitems

theorem listReply_of_error (hitem : item.RepliesAlone bindings w (.ok (.error e))) :
    ListReply bindings min item delimiter w
      (gathered none w (.ok (Reply.ofList min w (.error e)))) := by
  cases he : e.isRecoverable with
  | false =>
    rw [Reply.ofList_of_fatal he]
    exact .failed he hitem
  | true =>
    by_cases hmin : min = 0
    · rw [Reply.ofList_of_zero hmin he]
      exact .empty hmin ⟨e, he, hitem⟩
    · rw [Reply.ofList_of_pos hmin]
      exact .refused hmin he hitem

theorem listReply_matched_iff {made : Window × List Node} :
    ListReply bindings min item delimiter w (.ok (.ok made)) ↔
      (∃ first pairs ending, Items bindings item delimiter w first pairs ending ∧
        EnoughItems min pairs ending ∧
        made = (restAfter first.rest pairs,
          [listNode w (restAfter first.rest pairs) (first.nodes ++ pairs.flatMap (·.nodes))])) ∨
      min = 0 ∧ item.Refuses bindings w ∧ made = (w, [listNode w w []]) := by
  constructor
  · intro h
    cases h with
    | empty hmin hrefuses => exact .inr ⟨hmin, hrefuses, rfl⟩
    | enough hitems henough => exact .inl ⟨_, _, _, hitems, henough, rfl⟩
  · rintro (⟨first, pairs, ending, hitems, henough, rfl⟩ | ⟨hmin, hrefuses, rfl⟩)
    · exact .enough hitems henough
    · exact .empty hmin hrefuses

theorem exists_node_of_listReply {rest : Window} {nodes : List Node}
    (hlist : ListReply bindings min item delimiter w (.ok (.ok (rest, nodes)))) :
    ∃ node, nodes = [node] := by
  cases hlist with
  | empty => exact ⟨_, rfl⟩
  | enough => exact ⟨_, rfl⟩

theorem listReply_fatal_iff (he : e.isRecoverable = false) :
    ListReply bindings min item delimiter w (.ok (.error e)) ↔
      item.RepliesAlone bindings w (.ok (.error e)) ∨
        ∃ first pairs, Items bindings item delimiter w first pairs (.failed e) := by
  constructor
  · intro h
    cases h with
    | refused _ he' => simp [he'] at he
    | failed _ hitem => exact .inl hitem
    | tooFew => cases he
    | pairFailed _ hitems => exact .inr ⟨_, _, hitems⟩
  · rintro (hitem | ⟨first, pairs, hitems⟩)
    · exact .failed he hitem
    · exact .pairFailed he hitems

theorem listReply_recoverable_iff (he : e.isRecoverable = true) :
    ListReply bindings min item delimiter w (.ok (.error e)) ↔
      (min ≠ 0 ∧ ∃ e', item.RepliesAlone bindings w (.ok (.error e')) ∧ e = e'.inSequence) ∨
      ∃ first pairs, Items bindings item delimiter w first pairs .refused ∧
        1 + pairs.length < min ∧ e = .tooFewPairs min first.rest pairs.length := by
  constructor
  · intro h
    cases h with
    | refused hmin _ hitem => exact .inl ⟨hmin, _, hitem, rfl⟩
    | failed he' => cases he.symm.trans he'
    | tooFew hitems hfew => exact .inr ⟨_, _, hitems, hfew, rfl⟩
    | pairFailed he' => cases he.symm.trans he'
  · rintro (⟨hmin, e, hitem, rfl⟩ | ⟨first, pairs, hitems, hfew, rfl⟩)
    · exact .refused hmin (by simpa using he) hitem
    · exact .tooFew hitems hfew

theorem listReply_halted_iff {halt : Halt} :
    ListReply bindings min item delimiter w (.error halt) ↔
      item.RepliesAlone bindings w (.error halt) ∨
        ∃ first pairs, Items bindings item delimiter w first pairs (.halted halt) := by
  constructor
  · intro h
    cases h with
    | halted hitem => exact .inl hitem
    | pairHalted hitems => exact .inr ⟨_, _, hitems⟩
  · rintro (hitem | ⟨first, pairs, hitems⟩)
    · exact .halted hitem
    · exact .pairHalted hitems

end Lists

namespace Repertoire

variable {bindings : Bindings} {S : Grammar → Prop} (h : Repertoire bindings S) {g : Grammar}
  (hg : S g) {min : Nat} {item delimiter : Grammar}
  (hmade : (Grammar.delimited min item delimiter).CanMake g)
include h hg hmade

/-- Both ways to build a list come to an item with a repeated tail. -/
theorem exists_tail_of_delimited :
    ∃ tail repeated, S tail ∧ S repeated ∧ S item ∧ S delimiter ∧
      (Grammar.liftedSequence [delimiter, item]).CanMake tail ∧
      (Grammar.liftedRepetition (min - 1) none tail).CanMake repeated ∧
      ∀ w r, g.RepliesAlone bindings w r ↔
        ∃ q, InTurn bindings [item, repeated] w q ∧
          r = gathered none w (q.map (Reply.ofList min w)) := by
  obtain ⟨tail, htail, hmade⟩ := hmade.of_bind
  cases min with
  | zero =>
    obtain ⟨repeated, hrepeated, hmade⟩ := hmade.of_bind
    obtain ⟨items, hitems, hmade⟩ := hmade.of_bind
    obtain ⟨optional, hoptional, hmade⟩ := hmade.of_bind
    obtain ⟨id, rfl⟩ := Grammar.exists_of_memoize hmade
    have hS : S optional := h.closed _ _ hg (.inl (.head _))
    have hitemsS : S items := h.body_of_liftedRepetition hS hoptional
    have hparts := h.parts_of_liftedSequence hitemsS hitems
    have hrepeatedS : S repeated := hparts _ (.tail _ (.head _))
    have htailS : S tail := h.body_of_liftedRepetition hrepeatedS hrepeated
    have hdelimiter : S delimiter := h.parts_of_liftedSequence htailS htail _ (.head _)
    refine ⟨tail, repeated, htailS, hrepeatedS, hparts _ (.head _), hdelimiter, htail, hrepeated,
      fun w r => ?_⟩
    simp only [h.repliesAlone_sequence hg, inTurn_singleton,
      h.repliesAlone_liftedOptional hS hoptional, h.repliesAlone_liftedSequence hitemsS hitems]
    constructor
    · rintro ⟨_, ⟨_, ⟨q, hq, rfl⟩, rfl⟩, rfl⟩
      exact ⟨q, hq, by rw [map_ofList_zero]⟩
    · rintro ⟨q, hq, rfl⟩
      exact ⟨_, ⟨_, ⟨q, hq, rfl⟩, rfl⟩, by rw [map_ofList_zero]⟩
  | succ min =>
    obtain ⟨repeated, hrepeated, hmade⟩ := hmade.of_bind
    obtain ⟨id, rfl⟩ := Grammar.exists_of_memoize hmade
    have hitem : S item := h.closed _ _ hg (.inl (.head _))
    have hS : S repeated := h.closed _ _ hg (.inl (.tail _ (.head _)))
    have htailS : S tail := h.body_of_liftedRepetition hS hrepeated
    have hdelimiter : S delimiter := h.parts_of_liftedSequence htailS htail _ (.head _)
    exact ⟨tail, repeated, htailS, hS, hitem, hdelimiter, htail, hrepeated,
      fun w r => h.repliesAlone_sequence hg⟩

/-- **A list replies what its items and delimiters come to.** -/
theorem repliesAlone_delimited {w : Window} (hsize : w.buffer.size + 1 < positionBound)
    {r : Except Halt Reply} :
    g.RepliesAlone bindings w r ↔ ListReply bindings min item delimiter w r := by
  obtain ⟨tail, repeated, htailS, hS, hitemS, -, htail, hrepeated, hg⟩ :=
    h.exists_tail_of_delimited hg hmade
  -- What stands behind the first item are pairs, and the repetition can count them all.
  have hpairs : ∀ {rest nodes t}, item.RepliesAlone bindings w (.ok (.ok (rest, nodes))) →
      (InTurn bindings [repeated] rest t ↔ ∃ pairs ending,
        Pairs bindings item delimiter rest pairs ending ∧
          t = (ending.reply (min - 1) none rest pairs).map Reply.lifted) := by
    intro rest nodes t hitem
    have hc := h.continues_of_repliesAlone hitemS hitem
    have hcount : CanCount none rest ((none : Option Nat).getD (rest.length + 1)) 0 rest :=
      ⟨Nat.le_refl _, by rwa [hc.buffer_eq]⟩
    simp only [inTurn_singleton, h.repliesAlone_liftedRepetition hS hrepeated hcount,
      chain_tail_iff h htailS htail]
  rw [hg]
  constructor
  · rintro ⟨q, hq, rfl⟩
    obtain ⟨halt | e | ⟨rest, nodes⟩, hitem, hgo⟩ := inTurn_cons.mp hq
    · obtain rfl : q = _ := hgo
      exact .halted hitem
    · obtain rfl : q = _ := hgo
      exact listReply_of_error hitem
    · obtain ⟨t, ht, rfl⟩ := hgo
      obtain ⟨pairs, ending, hfollow, rfl⟩ := (hpairs hitem).mp ht
      let first : Match := ⟨rest, nodes⟩
      have hitems : Items bindings item delimiter w first pairs ending := ⟨hitem, hfollow⟩
      exact listReply_of_items hitems
  · have hlist : ∀ {first pairs ending}, Items bindings item delimiter w first pairs ending →
        ∃ q, InTurn bindings [item, repeated] w q ∧
          listOf min w first pairs ending = gathered none w (q.map (Reply.ofList min w)) :=
      fun hitems => ⟨_, .matched hitems.item_matches ((hpairs hitems.item_matches).mpr
        ⟨_, _, hitems.pairs_follow, rfl⟩), rfl⟩
    intro hr
    cases hr with
    | empty hmin hrefuses =>
      obtain ⟨e, he, hitem⟩ := hrefuses
      exact ⟨_, .failed hitem, congrArg (gathered none w ∘ .ok) (Reply.ofList_of_zero hmin he).symm⟩
    | refused hmin he hitem =>
      exact ⟨_, .failed hitem, congrArg (gathered none w ∘ .ok) (Reply.ofList_of_pos hmin).symm⟩
    | failed he hitem =>
      exact ⟨_, .failed hitem, congrArg (gathered none w ∘ .ok) (Reply.ofList_of_fatal he).symm⟩
    | halted hitem => exact ⟨_, .halted hitem, rfl⟩
    | enough hitems henough =>
      rw [← listOf_of_enough henough]
      exact hlist hitems
    | tooFew hitems hfew =>
      rw [← listOf_refused hfew]
      exact hlist hitems
    | pairFailed he hitems =>
      rw [← listOf_failed he]
      exact hlist hitems
    | pairHalted hitems => exact hlist hitems

/-- Where the item and the delimiter reply to what they may be shown, the list replies. -/
theorem exists_reply_of_delimited {w : Window} (hsize : w.buffer.size + 1 < positionBound)
    (hreply : ∀ v, w.Continues v →
      (∃ r, item.RepliesAlone bindings v r) ∧ ∃ r, delimiter.RepliesAlone bindings v r) :
    ∃ r, g.RepliesAlone bindings w r := by
  obtain ⟨tail, -, htailS, -, hitemS, hdelimiterS, htail, -, -⟩ :=
    h.exists_tail_of_delimited hg hmade
  have htailReply : ∀ v, w.Continues v → ∃ r, tail.RepliesAlone bindings v r := by
    intro v hv
    have hparts : ∀ part ∈ [delimiter, item], ∀ u, v.Continues u →
        ∃ r, part.RepliesAlone bindings u r :=
      List.forall_mem_cons.mpr ⟨fun u hu => (hreply u (hv.trans hu)).2,
        List.forall_mem_singleton.mpr fun u hu => (hreply u (hv.trans hu)).1⟩
    obtain ⟨q, hq⟩ := h.exists_inTurn (h.parts_of_liftedSequence htailS htail) hparts
    exact ⟨_, (h.repliesAlone_liftedSequence htailS htail).mpr ⟨q, hq, rfl⟩⟩
  simp only [h.repliesAlone_delimited hg hmade hsize]
  obtain ⟨halt | e | ⟨rest, nodes⟩, hitem⟩ := (hreply w (.refl w)).1
  · exact ⟨_, .halted hitem⟩
  · exact ⟨_, listReply_of_error hitem⟩
  · have hc := h.continues_of_repliesAlone hitemS hitem
    have hturns : Repetition.Suffices none (rest.length + 1) rest := Nat.lt_succ_self _
    obtain ⟨pairs, ending, hchain⟩ := Repetition.exists_chain h htailS htailReply hturns hc
    let first : Match := ⟨rest, nodes⟩
    have hitems : Items bindings item delimiter w first pairs ending :=
      ⟨hitem, (chain_tail_iff h htailS htail).mp hchain⟩
    exact ⟨_, listReply_of_items hitems⟩

end Repertoire

/-! ### Ones between commas

The last comma of the text has no item behind it. -/

namespace Ones

def item : Grammar := .exact "1" none

def comma : Grammar := .exact "," none

def text : Window := .ofText "1,1,"

/-- What is left of the text behind its first `n` characters. -/
def behind (n : Nat) (hn : n ≤ 4) : Window := ⟨text.buffer, n, 4, hn, by decide⟩

def tail : Grammar :=
  .memoized ⟨2⟩ (.lift (.memoized ⟨1⟩ (.sequence [comma, item] none)) none)

/-- A list of more than `min` ones. -/
def list (min : Nat) : Grammar :=
  .memoized ⟨5⟩ (.sequence
    [item, .memoized ⟨4⟩ (.lift (.memoized ⟨3⟩ (.repetition min none tail none)) none)] none)

theorem list_made (min : Nat) : (Grammar.delimited (min + 1) item comma).CanMake (list min) :=
  ⟨⟨1, 0⟩, _, rfl⟩

theorem items :
    Items [] item comma text ⟨behind 1 (by decide), [⟨some ⟨0, 1⟩, some "1", none, []⟩]⟩
      [⟨behind 3 (by decide),
        [⟨some ⟨1, 2⟩, some ",", none, []⟩, ⟨some ⟨2, 3⟩, some "1", none, []⟩]⟩] .refused := by
  have hfirst : item.RepliesAlone [] text
      (.ok (.ok (behind 1 (by decide), [⟨some ⟨0, 1⟩, some "1", none, []⟩]))) :=
    ⟨ok_ne_outOfFuel _, 1, by rfl⟩
  have hcomma : comma.RepliesAlone [] (behind 1 (by decide))
      (.ok (.ok (behind 2 (by decide), [⟨some ⟨1, 2⟩, some ",", none, []⟩]))) :=
    ⟨ok_ne_outOfFuel _, 1, by rfl⟩
  have hsecond : item.RepliesAlone [] (behind 2 (by decide))
      (.ok (.ok (behind 3 (by decide), [⟨some ⟨2, 3⟩, some "1", none, []⟩]))) :=
    ⟨ok_ne_outOfFuel _, 1, by rfl⟩
  have hlast : comma.RepliesAlone [] (behind 3 (by decide))
      (.ok (.ok (behind 4 (by decide), [⟨some ⟨3, 4⟩, some ",", none, []⟩]))) :=
    ⟨ok_ne_outOfFuel _, 1, by rfl⟩
  have hmissing : item.RepliesAlone [] (behind 4 (by decide))
      (.ok (.error (.mismatch "Token mismatch (1)" 4 none))) := ⟨ok_ne_outOfFuel _, 1, by rfl⟩
  have hopen : InTurn [] [comma, item] (behind 3 (by decide))
      (.ok (.error (.mismatch "Token mismatch (1)" 4 none))) :=
    .matched hlast (.failed hmissing)
  exact ⟨hfirst, .pair (.matched hcomma (.matched hsecond .nil)) (by decide) (.refused hopen rfl)⟩

end Ones

/-- **A delimited list takes an item and then pairs of a delimiter and an item**, up to a pair that
fails in either half, which is left, or one that takes nothing, which is not.  It matches if there
are enough items or if the last pair took nothing, and makes one node of all the nodes in order; if
it may be empty, it also matches where there is no item.  Errors from which no one recovers are
returned, and it answers wherever the item and the delimiter do. -/
theorem delimited_answers_iff {env : Environment} {S : Grammar → Prop}
    (h : Repertoire env.bindings S) {min : Nat} {item delimiter g : Grammar}
    (hmade : (Grammar.delimited min item delimiter).CanMake g) (hg : S g) {w : Window}
    (hsize : w.buffer.size + 1 < positionBound) {s : Session} (hs : s.Reached env S w.buffer)
    (parent : NodeBuilder) :
    (∀ rest after, g.Answers env w parent s (.ok ⟨.ok rest, after⟩) ↔
      (∃ first pairs ending, Items env.bindings item delimiter w first pairs ending ∧
        (ending = .refused ∧ min ≤ 1 + pairs.length ∨ ending = .idle) ∧
        rest = restAfter first.rest pairs ∧
        after = parent.push (listNode w rest (first.nodes ++ pairs.flatMap (·.nodes)))) ∨
      min = 0 ∧ item.Refuses env.bindings w ∧ rest = w ∧
        after = parent.push (listNode w w [])) ∧
    (∀ e after, e.isRecoverable = false →
      (g.Answers env w parent s (.ok ⟨.error e, after⟩) ↔ after = parent ∧
        (item.RepliesAlone env.bindings w (.ok (.error e)) ∨
          ∃ first pairs, Items env.bindings item delimiter w first pairs (.failed e)))) ∧
    (∀ e after, e.isRecoverable = true →
      (g.Answers env w parent s (.ok ⟨.error e, after⟩) ↔ after = parent ∧
        ((min ≠ 0 ∧ ∃ e', item.RepliesAlone env.bindings w (.ok (.error e')) ∧
            e = e'.inSequence) ∨
          ∃ first pairs, Items env.bindings item delimiter w first pairs .refused ∧
            1 + pairs.length < min ∧ e = .tooFewPairs min first.rest pairs.length))) ∧
    (∀ halt, g.Answers env w parent s (.error halt) ↔
      item.RepliesAlone env.bindings w (.error halt) ∨
        ∃ first pairs, Items env.bindings item delimiter w first pairs (.halted halt)) ∧
    ((∀ v, w.Continues v → (∃ r, item.RepliesAlone env.bindings v r) ∧
        ∃ r, delimiter.RepliesAlone env.bindings v r) →
      ∃ r, g.Answers env w parent s r) := by
  have hreplies : ∀ r, g.RepliesAlone env.bindings w r ↔
      ListReply env.bindings min item delimiter w r := fun r =>
    h.repliesAlone_delimited hg hmade hsize
  refine ⟨fun rest after => ?_, fun e after he => ?_, fun e after he => ?_, fun halt => ?_,
    fun hreply => ?_⟩
  · simp only [h.answers_matched_iff hg hs, hreplies, listReply_matched_iff, Prod.mk.injEq]
    constructor
    · rintro ⟨nodes, rfl, ⟨first, pairs, ending, hitems, henough, rfl, rfl⟩ |
        ⟨hmin, hrefuses, rfl, rfl⟩⟩
      · exact .inl ⟨first, pairs, ending, hitems, henough, rfl, rfl⟩
      · exact .inr ⟨hmin, hrefuses, rfl, rfl⟩
    · rintro (⟨first, pairs, ending, hitems, henough, rfl, rfl⟩ | ⟨hmin, hrefuses, rfl, rfl⟩)
      · exact ⟨_, rfl, .inl ⟨first, pairs, ending, hitems, henough, rfl, rfl⟩⟩
      · exact ⟨_, rfl, .inr ⟨hmin, hrefuses, rfl, rfl⟩⟩
  · rw [h.answers_failed_iff hg hs, hreplies, listReply_fatal_iff he]
  · rw [h.answers_failed_iff hg hs, hreplies, listReply_recoverable_iff he]
  · rw [h.answers_halted_iff hg hs, hreplies, listReply_halted_iff]
  · obtain ⟨r, hr⟩ := h.exists_reply_of_delimited hg hmade hsize hreply
    exact ⟨_, (h.answers_iff_repliesAlone hg hs).mpr ⟨r, rfl, hr⟩⟩

/-- Two ones are enough.  The table holds what an earlier try has left. -/
theorem ones_delimited_answers_iff :
    let list := Ones.list 1
    let env : Environment := ⟨[], true⟩
    let s := ((list.consume env 9 Ones.text .empty).exec {}).2
    Repertoire env.bindings (· ∈ list.subgrammars) ∧
      (Grammar.delimited 2 Ones.item Ones.comma).CanMake list ∧ list ∈ list.subgrammars ∧
      Ones.text.buffer.size + 1 < positionBound ∧
      s.Reached env (· ∈ list.subgrammars) Ones.text.buffer ∧
      list.Answers env Ones.text .empty s (.ok ⟨.ok (Ones.behind 3 (by decide)),
        NodeBuilder.empty.push ⟨some ⟨0, 3⟩, none, none, [⟨some ⟨0, 1⟩, some "1", none, []⟩,
          ⟨some ⟨1, 2⟩, some ",", none, []⟩, ⟨some ⟨2, 3⟩, some "1", none, []⟩]⟩⟩) := by
  intro list env s
  have h : Repertoire env.bindings (· ∈ list.subgrammars) := .of_nodup (by decide) (by decide)
  have hmade : (Grammar.delimited 2 Ones.item Ones.comma).CanMake list := Ones.list_made 1
  have hg : list ∈ list.subgrammars := Grammar.self_mem_subgrammars list
  have hsize : Ones.text.buffer.size + 1 < positionBound := by decide
  have hs : s.Reached env (· ∈ list.subgrammars) Ones.text.buffer :=
    .consumed 9 .empty (.fresh rfl) hg rfl
  refine ⟨h, hmade, hg, hsize, hs, ?_⟩
  exact ((delimited_answers_iff h hmade hg hsize hs .empty).1 _ _).mpr
    (.inl ⟨_, _, _, Ones.items, .inl ⟨rfl, by decide⟩, rfl, rfl⟩)

/-! ## The operator idiom -/

/-- An item matches on `w`, and behind it a pair of a delimiter and an item. -/
def HasPair (bindings : Bindings) (item delimiter : Grammar) (w : Window) : Prop :=
  ∃ first pair : Match, item.RepliesAlone bindings w (.ok (.ok (first.rest, first.nodes))) ∧
    InTurn bindings [delimiter, item] first.rest (.ok (.ok (pair.rest, pair.nodes)))

section Idiom

variable {bindings : Bindings} {S : Grammar → Prop} (h : Repertoire bindings S)
  {item delimiter two : Grammar} (hitem : S item) (hdelimiter : S delimiter) {w : Window}
  (htwo : ∀ r, two.RepliesAlone bindings w r ↔ ListReply bindings 2 item delimiter w r)
  {e : ParseError} {first : Match} {pairs : List Match} {ending : Ending}

theorem Pairs.ne_nil_of_idle (hpairs : Pairs bindings item delimiter w pairs .idle) :
    pairs ≠ [] := by
  rintro rfl
  cases hpairs

include h hitem hdelimiter in
/-- Some pair follows the first item just if there is one in the list. -/
theorem Items.hasPair_iff (hitems : Items bindings item delimiter w first pairs ending) :
    HasPair bindings item delimiter w ↔ pairs ≠ [] := by
  have hparts : ∀ g ∈ [delimiter, item], S g :=
    List.forall_mem_cons.mpr ⟨hdelimiter, List.forall_mem_singleton.mpr hitem⟩
  obtain ⟨hfirst, hfollow⟩ := hitems
  constructor
  · rintro ⟨first', pair, hfirst', hpair⟩ rfl
    obtain ⟨hrest, -⟩ := h.match_unique hitem hfirst hfirst'
    rw [← hrest] at hpair
    cases hfollow with
    | refused he => cases h.inTurn_unique hparts he hpair
    | failed he => cases h.inTurn_unique hparts he hpair
    | halted hhalt => cases h.inTurn_unique hparts hhalt hpair
  · intro hne
    cases hfollow with
    | refused => exact absurd rfl hne
    | failed => exact absurd rfl hne
    | halted => exact absurd rfl hne
    | idle hpair => exact ⟨first, _, hfirst, hpair⟩
    | pair hpair => exact ⟨first, _, hfirst, hpair⟩

/-- There are enough items for a list of two just if there are for a list of one, and a pair. -/
theorem Items.enoughItems_two_iff (hitems : Items bindings item delimiter w first pairs ending) :
    EnoughItems 2 pairs ending ↔ EnoughItems 1 pairs ending ∧ pairs ≠ [] := by
  constructor
  · rintro (⟨rfl, htwo⟩ | rfl)
    · have hlength : 0 < pairs.length := by omega
      exact ⟨.inl ⟨rfl, by omega⟩, List.ne_nil_of_length_pos hlength⟩
    · exact ⟨.inr rfl, hitems.pairs_follow.ne_nil_of_idle⟩
  · rintro ⟨⟨rfl, -⟩ | rfl, hne⟩
    · have hlength := List.length_pos_iff.mpr hne
      exact .inl ⟨rfl, by omega⟩
    · exact .inr rfl

include htwo in
/-- Without a pair the list of two has too few items. -/
theorem Items.refuses_two (hitems : Items bindings item delimiter w first [] .refused) :
    two.Refuses bindings w :=
  ⟨_, rfl, (htwo _).mpr (.tooFew hitems (by decide))⟩

include h hitem htwo in
/-- Where the list of two refuses a matching item, there is no pair behind it. -/
theorem items_of_refuses_two (hrefuses : two.Refuses bindings w)
    (hfirst : item.RepliesAlone bindings w (.ok (.ok (first.rest, first.nodes)))) :
    Items bindings item delimiter w first [] .refused := by
  obtain ⟨e, he, hreply⟩ := hrefuses
  rcases (listReply_recoverable_iff he).mp ((htwo _).mp hreply) with
    ⟨-, e', hfails, -⟩ | ⟨first', pairs, hitems, hfew, -⟩
  · cases h.repliesAlone_unique hitem hfails hfirst
  · obtain rfl : pairs = [] := List.length_eq_zero_iff.mp (by omega)
    obtain ⟨hrest, -⟩ := h.match_unique hitem hfirst hitems.item_matches
    exact ⟨hfirst, hrest ▸ hitems.pairs_follow⟩

include h hitem htwo in
/-- **The idiom matches what a list of one item or more does.**  A pair makes the list of two that
it tries first; without one, that list has too few items. -/
theorem firstOf_idiom_matched_iff (hdelimiter : S delimiter) {rest : Window} {nodes : List Node} :
    FirstOf bindings [two, item] w (.ok (.ok (rest, nodes))) ↔
      ∃ node, ListReply bindings 1 item delimiter w (.ok (.ok (rest, [node]))) ∧
        (HasPair bindings item delimiter w ∧ nodes = [node] ∨
          ¬ HasPair bindings item delimiter w ∧ nodes = node.children) := by
  constructor
  · intro hfirst
    rcases firstOf_cons.mp hfirst with ⟨hreply, -⟩ | ⟨hrefuses, hfirst⟩
    · cases (htwo _).mp hreply with
      | empty hmin => cases hmin
      | enough hitems henough =>
        obtain ⟨henough, hne⟩ := hitems.enoughItems_two_iff.mp henough
        exact ⟨_, .enough hitems henough,
          .inl ⟨(hitems.hasPair_iff h hitem hdelimiter).mpr hne, rfl⟩⟩
    · rcases firstOf_cons.mp hfirst with ⟨hreply, -⟩ | ⟨-, hnone⟩
      · let first : Match := ⟨rest, nodes⟩
        have hitems : Items bindings item delimiter w first [] .refused :=
          items_of_refuses_two h hitem htwo hrefuses hreply
        have hsingle : ¬ HasPair bindings item delimiter w := by
          simp [hitems.hasPair_iff h hitem hdelimiter]
        exact ⟨_, .enough hitems (.inl ⟨rfl, by decide⟩), .inr ⟨hsingle, by simp [listNode, first]⟩⟩
      · cases firstOf_nil.mp hnone
  · rintro ⟨node, hlist, hnodes⟩
    cases hlist with
    | empty hmin => cases hmin
    | @enough first pairs ending hitems henough =>
      rw [hitems.hasPair_iff h hitem hdelimiter] at hnodes
      rcases hnodes with ⟨hne, rfl⟩ | ⟨hnil, rfl⟩
      · have htwoItems := hitems.enoughItems_two_iff.mpr ⟨henough, hne⟩
        exact .decided ⟨(htwo _).mpr (.enough hitems htwoItems), firm_matched _⟩
      · obtain rfl := not_ne_iff.mp hnil
        have hending : ending = .refused := by
          rcases henough with ⟨rfl, -⟩ | rfl
          · rfl
          · exact absurd rfl hitems.pairs_follow.ne_nil_of_idle
        subst hending
        refine .refused (hitems.refuses_two htwo) (.decided ⟨?_, firm_matched _⟩)
        simpa [listNode, restAfter] using hitems.item_matches

include htwo in
/-- What stops the item for good stops the list of two. -/
theorem firstOf_idiom_iff_of_firm {r : Except Halt Reply} (hfirm : Firm r)
    (hstops : item.RepliesAlone bindings w r → ListReply bindings 2 item delimiter w r) :
    FirstOf bindings [two, item] w r ↔ ListReply bindings 2 item delimiter w r := by
  constructor
  · intro hfirst
    rcases firstOf_cons.mp hfirst with ⟨hreply, -⟩ | ⟨-, hfirst⟩
    · exact (htwo _).mp hreply
    · rcases firstOf_cons.mp hfirst with ⟨hreply, -⟩ | ⟨-, hnone⟩
      · exact hstops hreply
      · obtain rfl := firstOf_nil.mp hnone
        exact absurd hfirm (not_firm_noAlternative _)
  · intro hlist
    exact .decided ⟨(htwo _).mpr hlist, hfirm⟩

include htwo in
theorem firstOf_idiom_fatal_iff (he : e.isRecoverable = false) :
    FirstOf bindings [two, item] w (.ok (.error e)) ↔
      ListReply bindings 1 item delimiter w (.ok (.error e)) := by
  rw [firstOf_idiom_iff_of_firm htwo (firm_of_fatal he) (.failed he), listReply_fatal_iff he,
    listReply_fatal_iff he]

include htwo in
theorem firstOf_idiom_halted_iff {halt : Halt} :
    FirstOf bindings [two, item] w (.error halt) ↔
      ListReply bindings 1 item delimiter w (.error halt) := by
  rw [firstOf_idiom_iff_of_firm htwo (firm_halted halt) .halted, listReply_halted_iff,
    listReply_halted_iff]

include htwo in
theorem exists_firstOf_idiom_recoverable_iff :
    (∃ e, e.isRecoverable = true ∧ FirstOf bindings [two, item] w (.ok (.error e))) ↔
      item.Refuses bindings w := by
  constructor
  · rintro ⟨e, he, hfirst⟩
    exact ((firstOf_recoverable_iff he).mp hfirst).2 item (.tail _ (.head _))
  · intro hrefuses
    have ⟨e, he, hreply⟩ := hrefuses
    have htwoRefuses : two.Refuses bindings w :=
      ⟨_, by simpa using he, (htwo _).mpr (.refused (by decide) he hreply)⟩
    have hall : ∀ g ∈ [two, item], g.Refuses bindings w :=
      List.forall_mem_cons.mpr ⟨htwoRefuses, List.forall_mem_singleton.mpr hrefuses⟩
    exact ⟨_, rfl, (firstOf_recoverable_iff rfl).mpr ⟨rfl, hall⟩⟩

theorem exists_listReply_one_recoverable_iff :
    (∃ e, e.isRecoverable = true ∧ ListReply bindings 1 item delimiter w (.ok (.error e))) ↔
      item.Refuses bindings w := by
  constructor
  · rintro ⟨e, he, hlist⟩
    rcases (listReply_recoverable_iff he).mp hlist with ⟨-, e', hreply, rfl⟩ | ⟨_, _, _, hfew, -⟩
    · exact ⟨e', by simpa using he, hreply⟩
    · omega
  · rintro ⟨e, he, hreply⟩
    exact ⟨_, by simpa using he, .refused (by decide) he hreply⟩

end Idiom

/-- **The operator idiom agrees with the plain list.**  A list of two items or more, or else a
single item, matches where a list of one or more does, and up to the same place.  It makes the same
node, but for a single item the nodes below it only.  Errors from which no one recovers are the
same. -/
theorem operator_idiom_answers_iff {env : Environment} {S S' : Grammar → Prop}
    (h : Repertoire env.bindings S) (h' : Repertoire env.bindings S')
    {item delimiter idiom plain : Grammar}
    (hidiom : Build.CanMake (do
      let two ← Grammar.delimited 2 item delimiter
      Grammar.liftedChoice [two, item]) idiom)
    (hplain : (Grammar.delimited 1 item delimiter).CanMake plain) (hg : S idiom) (hg' : S' plain)
    {w : Window} (hsize : w.buffer.size + 1 < positionBound) {s s' : Session}
    (hs : s.Reached env S w.buffer) (hs' : s'.Reached env S' w.buffer) (parent : NodeBuilder) :
    (∀ rest, (∃ after, idiom.Answers env w parent s (.ok ⟨.ok rest, after⟩)) ↔
      ∃ after, plain.Answers env w parent s' (.ok ⟨.ok rest, after⟩)) ∧
    (∀ rest after, idiom.Answers env w parent s (.ok ⟨.ok rest, after⟩) ↔
      ∃ node, plain.Answers env w parent s' (.ok ⟨.ok rest, parent.push node⟩) ∧
        (HasPair env.bindings item delimiter w ∧ after = parent.push node ∨
          ¬ HasPair env.bindings item delimiter w ∧ after = parent.extend node.children)) ∧
    (∀ e after, e.isRecoverable = false →
      (idiom.Answers env w parent s (.ok ⟨.error e, after⟩) ↔
        plain.Answers env w parent s' (.ok ⟨.error e, after⟩))) ∧
    (∀ after, (∃ e, e.isRecoverable = true ∧
        idiom.Answers env w parent s (.ok ⟨.error e, after⟩)) ↔
      ∃ e, e.isRecoverable = true ∧ plain.Answers env w parent s' (.ok ⟨.error e, after⟩)) ∧
    ∀ halt, idiom.Answers env w parent s (.error halt) ↔
      plain.Answers env w parent s' (.error halt) := by
  obtain ⟨two, hmade, hchoice⟩ := hidiom.of_bind
  have hbranches := h.branches_of_liftedChoice hg hchoice
  have hitem : S item := hbranches item (.tail _ (.head _))
  obtain ⟨-, -, -, -, -, hdelimiter, -⟩ :=
    h.exists_tail_of_delimited (hbranches two (.head _)) hmade
  have htwo : ∀ r, two.RepliesAlone env.bindings w r ↔
      ListReply env.bindings 2 item delimiter w r := fun r =>
    h.repliesAlone_delimited (hbranches two (.head _)) hmade hsize
  have hlist : ∀ r, plain.RepliesAlone env.bindings w r ↔
      ListReply env.bindings 1 item delimiter w r := fun r =>
    h'.repliesAlone_delimited hg' hplain hsize
  have hfirst : ∀ r, idiom.RepliesAlone env.bindings w r ↔
      FirstOf env.bindings [two, item] w r := fun r => h.repliesAlone_liftedChoice hg hchoice
  have hmatched : ∀ rest after, idiom.Answers env w parent s (.ok ⟨.ok rest, after⟩) ↔
      ∃ node, plain.Answers env w parent s' (.ok ⟨.ok rest, parent.push node⟩) ∧
        (HasPair env.bindings item delimiter w ∧ after = parent.push node ∨
          ¬ HasPair env.bindings item delimiter w ∧ after = parent.extend node.children) := by
    intro rest after
    have hplainNode : ∀ node, plain.Answers env w parent s' (.ok ⟨.ok rest, parent.push node⟩) ↔
        ListReply env.bindings 1 item delimiter w (.ok (.ok (rest, [node]))) := by
      intro node
      rw [NodeBuilder.push_eq_extend, h'.answers_extend_iff hg' hs', hlist]
    simp only [h.answers_matched_iff hg hs, hfirst, hplainNode,
      firstOf_idiom_matched_iff h hitem htwo hdelimiter]
    constructor
    · rintro ⟨_, rfl, node, hnode, ⟨hpair, rfl⟩ | ⟨hsingle, rfl⟩⟩
      · exact ⟨node, hnode, .inl ⟨hpair, rfl⟩⟩
      · exact ⟨node, hnode, .inr ⟨hsingle, rfl⟩⟩
    · rintro ⟨node, hnode, ⟨hpair, rfl⟩ | ⟨hsingle, rfl⟩⟩
      · exact ⟨[node], rfl, node, hnode, .inl ⟨hpair, rfl⟩⟩
      · exact ⟨node.children, rfl, node, hnode, .inr ⟨hsingle, rfl⟩⟩
  refine ⟨fun rest => ⟨?_, ?_⟩, hmatched, fun e after he => ?_, fun after => ?_, fun halt => ?_⟩
  · rintro ⟨after, hafter⟩
    obtain ⟨node, hnode, -⟩ := (hmatched rest after).mp hafter
    exact ⟨_, hnode⟩
  · rintro ⟨after, hafter⟩
    obtain ⟨nodes, rfl, hreply⟩ := (h'.answers_matched_iff hg' hs').mp hafter
    obtain ⟨node, rfl⟩ := exists_node_of_listReply ((hlist _).mp hreply)
    by_cases hpair : HasPair env.bindings item delimiter w
    · exact ⟨_, (hmatched rest _).mpr ⟨node, hafter, .inl ⟨hpair, rfl⟩⟩⟩
    · exact ⟨_, (hmatched rest _).mpr ⟨node, hafter, .inr ⟨hpair, rfl⟩⟩⟩
  · rw [h.answers_failed_iff hg hs, h'.answers_failed_iff hg' hs', hfirst, hlist,
      firstOf_idiom_fatal_iff htwo he]
  · simp only [h.answers_failed_iff hg hs, h'.answers_failed_iff hg' hs', hfirst, hlist,
      and_left_comm, exists_and_left, exists_firstOf_idiom_recoverable_iff htwo,
      exists_listReply_one_recoverable_iff]
  · rw [h.answers_halted_iff hg hs, h'.answers_halted_iff hg' hs', hfirst, hlist,
      firstOf_idiom_halted_iff htwo]

/-- There is a second one, and so the idiom makes the same node.  The table of the idiom holds what
an earlier try has left. -/
theorem ones_operator_idiom_answers_iff :
    let two := Ones.list 1
    let idiom : Grammar :=
      .memoized ⟨7⟩ (.lift (.memoized ⟨6⟩ (.choice [two, Ones.item] none)) none)
    let plain := Ones.list 0
    let env : Environment := ⟨[], true⟩
    let s := ((idiom.consume env 9 Ones.text .empty).exec {}).2
    Repertoire env.bindings (· ∈ idiom.subgrammars) ∧
      Repertoire env.bindings (· ∈ plain.subgrammars) ∧
      Build.CanMake (do
        let two ← Grammar.delimited 2 Ones.item Ones.comma
        Grammar.liftedChoice [two, Ones.item]) idiom ∧
      (Grammar.delimited 1 Ones.item Ones.comma).CanMake plain ∧
      Ones.text.buffer.size + 1 < positionBound ∧
      s.Reached env (· ∈ idiom.subgrammars) Ones.text.buffer ∧
      ∃ rest node,
        plain.Answers env Ones.text .empty {} (.ok ⟨.ok rest, NodeBuilder.empty.push node⟩) ∧
        idiom.Answers env Ones.text .empty s (.ok ⟨.ok rest, NodeBuilder.empty.push node⟩) := by
  intro two idiom plain env s
  have h : Repertoire env.bindings (· ∈ idiom.subgrammars) := .of_nodup (by decide) (by decide)
  have h' : Repertoire env.bindings (· ∈ plain.subgrammars) := .of_nodup (by decide) (by decide)
  have hidiom : Build.CanMake (do
      let two ← Grammar.delimited 2 Ones.item Ones.comma
      Grammar.liftedChoice [two, Ones.item]) idiom := ⟨⟨1, 0⟩, _, rfl⟩
  have hplain : (Grammar.delimited 1 Ones.item Ones.comma).CanMake plain := Ones.list_made 0
  have hg : idiom ∈ idiom.subgrammars := Grammar.self_mem_subgrammars idiom
  have hg' : plain ∈ plain.subgrammars := Grammar.self_mem_subgrammars plain
  have hsize : Ones.text.buffer.size + 1 < positionBound := by decide
  have hs : s.Reached env (· ∈ idiom.subgrammars) Ones.text.buffer :=
    .consumed 9 .empty (.fresh rfl) hg rfl
  have hs' : ({} : Session).Reached env (· ∈ plain.subgrammars) Ones.text.buffer := .fresh rfl
  have hpair : HasPair env.bindings Ones.item Ones.comma Ones.text := by
    obtain ⟨hfirst, hfollow⟩ := Ones.items
    cases hfollow with
    | pair hpair => exact ⟨_, _, hfirst, hpair⟩
  obtain ⟨rest, node, hanswers⟩ : ∃ rest node,
      plain.Answers env Ones.text .empty {} (.ok ⟨.ok rest, NodeBuilder.empty.extend [node]⟩) := by
    simp only [h'.answers_extend_iff hg' hs', h'.repliesAlone_delimited hg' hplain hsize]
    exact ⟨_, _, .enough Ones.items (.inl ⟨rfl, by decide⟩)⟩
  refine ⟨h, h', hidiom, hplain, hsize, hs, rest, node, hanswers, ?_⟩
  exact ((operator_idiom_answers_iff h h' hidiom hplain hg hg' hsize hs hs' .empty).2.1 _ _).mpr
    ⟨_, hanswers, .inl ⟨hpair, rfl⟩⟩

end Packrat
