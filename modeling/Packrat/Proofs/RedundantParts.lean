import Packrat.Proofs.CharacterRuns
import Packrat.Proofs.Sequences

/-! # Parts of a sequence that change nothing

Parts of a sequence may be exchanged for others that take their turns alike (`inTurn_congr`), also
for fewer of them.  A lookahead in front of the very part that it looks for can be left out
(`lookahead_answers_iff`): it fails where that part would fail, with the same error, and otherwise
leaves the window as it was.  Characters of a class that are ignored twice may as well be ignored
once, because the first time takes all of them.  Hence a grammar that is stripped twice matches what
it matches when it is stripped once (`stripped_twice_answers_iff`).
-/
namespace Packrat

section Exchanging

variable {bindings : Bindings} {S S' : Grammar → Prop} {xs ys ys' zs : List Grammar}

/-- **Parts that take their turns alike may be exchanged**, with any parts around them. -/
theorem inTurn_congr
    (halike : ∀ w r, InTurn bindings ys w r ↔ InTurn bindings ys' w r) {w : Window}
    {r : Except Halt Reply} :
    InTurn bindings (xs ++ ys ++ zs) w r ↔ InTurn bindings (xs ++ ys' ++ zs) w r := by
  have hnext : InTurn bindings (ys ++ zs) = InTurn bindings (ys' ++ zs) := by
    funext v q
    refine propext ?_
    simp only [inTurn_append, halike]
  rw [List.append_assoc, List.append_assoc, inTurn_append, inTurn_append, hnext]

/-- The sequences with the one and with the other reply alike. -/
theorem Repertoire.repliesAlone_sequence_congr (h : Repertoire bindings S)
    (h' : Repertoire bindings S') {id id' : ConsumerId} {factory : Option Factory}
    (hg : S (.memoized id (.sequence (xs ++ ys ++ zs) factory)))
    (hg' : S' (.memoized id' (.sequence (xs ++ ys' ++ zs) factory)))
    (halike : ∀ w r, InTurn bindings ys w r ↔ InTurn bindings ys' w r) {w : Window}
    {r : Except Halt Reply} :
    (Grammar.memoized id (.sequence (xs ++ ys ++ zs) factory)).RepliesAlone bindings w r ↔
      (Grammar.memoized id' (.sequence (xs ++ ys' ++ zs) factory)).RepliesAlone bindings w r := by
  rw [h.repliesAlone_sequence hg, h'.repliesAlone_sequence hg']
  simp only [inTurn_congr halike]

end Exchanging

/-! ## Looking ahead at the next part -/

section LookingAhead

variable {bindings : Bindings} {S : Grammar → Prop} (h : Repertoire bindings S)
  {look part : Grammar} (hlook : S look) (hmade : (Grammar.peek part).CanMake look) {w : Window}
include h hlook hmade

/-- In front of the part that it looks for, a lookahead takes its turn in vain. -/
theorem Repertoire.inTurn_peek {r : Except Halt Reply} :
    InTurn bindings [look, part] w r ↔ InTurn bindings [part] w r := by
  rw [inTurn_cons, inTurn_singleton]
  simp only [h.repliesAlone_peek hlook hmade]
  constructor
  · rintro ⟨_, ⟨halt | e | ⟨rest, nodes⟩, hq, rfl⟩, hgo⟩
    · obtain rfl : r = _ := hgo
      exact hq
    · obtain rfl : r = _ := hgo
      exact hq
    · obtain ⟨q, hq', rfl⟩ := hgo
      rw [map_behind_nil]
      exact inTurn_singleton.mp hq'
  · intro hr
    refine ⟨_, ⟨r, hr, rfl⟩, ?_⟩
    rcases r with halt | e | ⟨rest, nodes⟩
    · rfl
    · rfl
    · exact ⟨_, inTurn_singleton.mpr hr, (map_behind_nil _).symm⟩

theorem Repertoire.peek_matched_iff {rest : Window} {nodes : List Node} :
    look.RepliesAlone bindings w (.ok (.ok (rest, nodes))) ↔
      rest = w ∧ nodes = [] ∧ ∃ made, part.RepliesAlone bindings w (.ok (.ok made)) := by
  rw [h.repliesAlone_peek hlook hmade, exists_map_eq_ok_iff]
  constructor
  · rintro ⟨e | made, hq, heq⟩ <;> cases heq
    exact ⟨rfl, rfl, made, hq⟩
  · rintro ⟨rfl, rfl, made, hq⟩
    exact ⟨_, hq, rfl⟩

theorem Repertoire.peek_failed_iff {e : ParseError} :
    look.RepliesAlone bindings w (.ok (.error e)) ↔
      part.RepliesAlone bindings w (.ok (.error e)) := by
  rw [h.repliesAlone_peek hlook hmade, exists_map_eq_ok_iff]
  constructor
  · rintro ⟨e' | made, hq, heq⟩ <;> cases heq
    exact hq
  · intro hq
    exact ⟨_, hq, rfl⟩

theorem Repertoire.peek_halted_iff {halt : Halt} :
    look.RepliesAlone bindings w (.error halt) ↔ part.RepliesAlone bindings w (.error halt) := by
  rw [h.repliesAlone_peek hlook hmade, exists_map_eq_halted_iff]

end LookingAhead

/-- **A lookahead at the next part is redundant and leaves no trace.**  A sequence answers the same
with it and without it.  The lookahead itself matches exactly where that part does, takes nothing
and makes nothing, and otherwise fails with the error of the part. -/
theorem lookahead_answers_iff {env : Environment} {S S' : Grammar → Prop}
    (h : Repertoire env.bindings S) (h' : Repertoire env.bindings S') {xs zs : List Grammar}
    {look part : Grammar} (hmade : (Grammar.peek part).CanMake look) {id id' : ConsumerId}
    {factory : Option Factory}
    (hahead : S (.memoized id (.sequence (xs ++ [look, part] ++ zs) factory)))
    (hplain : S' (.memoized id' (.sequence (xs ++ [part] ++ zs) factory))) {w : Window}
    {s s' : Session} (hs : s.Reached env S w.buffer) (hs' : s'.Reached env S' w.buffer)
    (parent : NodeBuilder) :
    let ahead : Grammar := .memoized id (.sequence (xs ++ [look, part] ++ zs) factory)
    let plain : Grammar := .memoized id' (.sequence (xs ++ [part] ++ zs) factory)
    (∀ r, ahead.Answers env w parent s r ↔ plain.Answers env w parent s' r) ∧
    (∀ rest after, look.Answers env w parent s (.ok ⟨.ok rest, after⟩) ↔
      rest = w ∧ after = parent ∧
        ∃ rest' after', part.Answers env w parent s' (.ok ⟨.ok rest', after'⟩)) ∧
    (∀ e after, look.Answers env w parent s (.ok ⟨.error e, after⟩) ↔
      part.Answers env w parent s' (.ok ⟨.error e, after⟩)) ∧
    ∀ halt, look.Answers env w parent s (.error halt) ↔
      part.Answers env w parent s' (.error halt) := by
  intro ahead plain
  have hlook : S look := h.closed _ look hahead (.inl (by simp [Grammar.parts, Production.parts]))
  have hpart : S' part := h'.closed _ part hplain (.inl (by simp [Grammar.parts, Production.parts]))
  refine ⟨fun r => ?_, fun rest after => ?_, fun e after => ?_, fun halt => ?_⟩
  · have halike : ∀ q, ahead.RepliesAlone env.bindings w q ↔ plain.RepliesAlone env.bindings w q :=
      fun _ => h.repliesAlone_sequence_congr h' hahead hplain fun _ _ => h.inTurn_peek hlook hmade
    simp only [h.answers_iff_repliesAlone hahead hs, h'.answers_iff_repliesAlone hplain hs',
      ahead, plain, halike]
  · simp only [h.answers_matched_iff hlook hs, h.peek_matched_iff hlook hmade,
      h'.answers_matched_iff hpart hs']
    constructor
    · rintro ⟨_, rfl, rfl, rfl, ⟨rest', nodes⟩, hreply⟩
      exact ⟨rfl, parent.extend_nil, rest', _, nodes, rfl, hreply⟩
    · rintro ⟨rfl, rfl, rest', _, nodes, -, hreply⟩
      exact ⟨[], (NodeBuilder.extend_nil _).symm, rfl, rfl, _, hreply⟩
  · rw [h.answers_failed_iff hlook hs, h'.answers_failed_iff hpart hs',
      h.peek_failed_iff hlook hmade]
  · rw [h.answers_halted_iff hlook hs, h'.answers_halted_iff hpart hs',
      h.peek_halted_iff hlook hmade]

/-- The part that is looked for is worked out once and found in the table when its turn comes. -/
theorem letters_lookahead_answers_iff :
    let part : Grammar := .memoized ⟨1⟩ (.repetition 1 none (.exact "b" none) none)
    let look : Grammar := .skip (.memoized ⟨2⟩ (.preserve part none))
    let xs : List Grammar := [.exact "a" none]
    let zs : List Grammar := [.exact "c" none]
    let ahead : Grammar := .memoized ⟨3⟩ (.sequence (xs ++ [look, part] ++ zs) none)
    let plain : Grammar := .memoized ⟨4⟩ (.sequence (xs ++ [part] ++ zs) none)
    let w := Window.ofText "abc"
    let env : Environment := ⟨[], true⟩
    let s := ((ahead.consume env 9 w .empty).exec {}).2
    Repertoire env.bindings (· ∈ ahead.subgrammars) ∧
      Repertoire env.bindings (· ∈ plain.subgrammars) ∧
      (Grammar.peek part).CanMake look ∧
      s.Reached env (· ∈ ahead.subgrammars) w.buffer ∧
      ∃ rest after, plain.Answers env w .empty {} (.ok ⟨.ok rest, after⟩) ∧
        ahead.Answers env w .empty s (.ok ⟨.ok rest, after⟩) ∧ rest.start = 3 := by
  intro part look xs zs ahead plain w env s
  -- The part is written twice, with one identity.
  have h : Repertoire env.bindings (· ∈ ahead.subgrammars) := by
    refine .of_subgrammars (by decide) fun id production production' hp hp' => ?_
    simp only [ahead, look, part, xs, zs, Grammar.subgrammars, Grammar.subgrammarsOf,
      Grammar.subgrammarsAll, List.mem_cons, List.cons_append, List.nil_append,
      List.append_nil, List.not_mem_nil, Grammar.memoized.injEq, reduceCtorEq, or_false,
      false_or] at hp hp'
    grind
  have h' : Repertoire env.bindings (· ∈ plain.subgrammars) := .of_nodup (by decide) (by decide)
  have hmade : (Grammar.peek part).CanMake look := ⟨⟨2, 0⟩, _, rfl⟩
  have hahead : ahead ∈ ahead.subgrammars := Grammar.self_mem_subgrammars ahead
  have hplain : plain ∈ plain.subgrammars := Grammar.self_mem_subgrammars plain
  have hs : s.Reached env (· ∈ ahead.subgrammars) w.buffer :=
    .consumed 9 .empty (.fresh rfl) hahead rfl
  have hs' : ({} : Session).Reached env (· ∈ plain.subgrammars) w.buffer := .fresh rfl
  let letter (start : Nat) (value : String) : Node :=
    ⟨some ⟨start, start + 1⟩, some value, none, []⟩
  let run : Node := ⟨some ⟨1, 2⟩, none, none, [letter 1 "b"]⟩
  let whole : Node := ⟨some ⟨0, 3⟩, none, none, [letter 0 "a", run, letter 2 "c"]⟩
  let rest : Window := ⟨w.buffer, 3, 3, by decide, by decide⟩
  have hreply : plain.RepliesAlone env.bindings w (.ok (.ok (rest, [whole]))) :=
    ⟨ok_ne_outOfFuel _, 5, by rfl⟩
  have hanswers : plain.Answers env w .empty {}
      (.ok ⟨.ok rest, NodeBuilder.empty.extend [whole]⟩) :=
    (h'.answers_extend_iff hplain hs').mpr hreply
  exact ⟨h, h', hmade, hs, rest, _, hanswers,
    ((lookahead_answers_iff h h' hmade hahead hplain hs hs' .empty).1 _).mpr hanswers, rfl⟩

/-! ## Characters that are ignored -/

section Ignoring

variable {bindings : Bindings} {S : Grammar → Prop} (h : Repertoire bindings S) {cls : CharClass}
  {w : Window} {r : Except Halt Reply}
include h

/-- Where nothing is left to match behind a match, the next turn of the same part is in vain. -/
theorem Repertoire.inTurn_twice {g : Grammar} (hg : S g)
    (hidle : ∀ w rest nodes, g.RepliesAlone bindings w (.ok (.ok (rest, nodes))) →
      g.RepliesAlone bindings rest (.ok (.ok (rest, [])))) :
    InTurn bindings [g, g] w r ↔ InTurn bindings [g] w r := by
  rw [inTurn_cons, inTurn_singleton]
  constructor
  · rintro ⟨halt | e | ⟨rest, nodes⟩, hq, hgo⟩
    · obtain rfl : r = _ := hgo
      exact hq
    · obtain rfl : r = _ := hgo
      exact hq
    · -- The second turn has no other reply than the idle one.
      obtain ⟨q, hq', rfl⟩ := hgo
      obtain rfl := h.repliesAlone_unique hg (inTurn_singleton.mp hq') (hidle _ _ _ hq)
      simpa [Reply.behind] using hq
  · intro hr
    refine ⟨r, hr, ?_⟩
    rcases r with halt | e | ⟨rest, nodes⟩
    · rfl
    · rfl
    · exact ⟨_, inTurn_singleton.mpr (hidle _ _ _ hr), by simp [Reply.behind]⟩

/-- Ignoring the characters of a class skips the run of them. -/
theorem Repertoire.repliesAlone_ignore (hg : S (.ignore cls)) :
    (Grammar.ignore cls).RepliesAlone bindings w r ↔
      r = ((addPosition w.start (w.run cls.contains none).length).mapError .violation).map
        fun _ => .ok (w.drop (w.run cls.contains none).length, []) := by
  have hrun : S (.charRun 0 none cls none) := h.closed _ _ hg (.inl (.head _))
  rw [Grammar.ignore, h.repliesAlone_skip hg]
  simp only [h.repliesAlone_of_asks_nothing hrun rfl, exists_eq_left,
    Grammar.charRunReply_of_le (Nat.zero_le _)]
  cases addPosition w.start (w.run cls.contains none).length <;> rfl

theorem Repertoire.not_ignore_failed (hg : S (.ignore cls)) (e : ParseError) :
    ¬ (Grammar.ignore cls).RepliesAlone bindings w (.ok (.error e)) := by
  rw [h.repliesAlone_ignore hg]
  cases addPosition w.start (w.run cls.contains none).length <;> exact nofun

/-- Behind characters that were ignored there are none to be ignored. -/
theorem Repertoire.ignore_idle (hg : S (.ignore cls)) {rest : Window} {nodes : List Node}
    (hr : (Grammar.ignore cls).RepliesAlone bindings w (.ok (.ok (rest, nodes)))) :
    (Grammar.ignore cls).RepliesAlone bindings rest (.ok (.ok (rest, []))) := by
  rw [h.repliesAlone_ignore hg] at hr ⊢
  cases hadd : addPosition w.start (w.run cls.contains none).length with
  | error v =>
    rw [hadd] at hr
    cases hr
  | ok stop =>
    rw [hadd] at hr
    cases hr
    -- No character follows, so the same position is reached again.
    have hagain : addPosition (w.drop (w.run cls.contains none).length).start 0 = .ok stop := by
      rw [Window.start_drop Window.length_run_le]
      exact hadd
    rw [Window.run_drop_run, List.length_nil, hagain, Window.drop_zero]
    rfl

end Ignoring

/-! ## Stripping twice -/

theorem inTurn_append_failed_iff {bindings : Bindings} {xs ys : List Grammar} {w : Window}
    {e : ParseError} :
    InTurn bindings (xs ++ ys) w (.ok (.error e)) ↔
      InTurn bindings xs w (.ok (.error e)) ∨
        ∃ rest nodes, InTurn bindings xs w (.ok (.ok (rest, nodes))) ∧
          InTurn bindings ys rest (.ok (.error e)) := by
  rw [inTurn_append]
  constructor
  · rintro ⟨halt | e' | ⟨rest, nodes⟩, hxs, hgo⟩
    · cases hgo
    · cases hgo
      exact .inl hxs
    · obtain ⟨halt | e' | made, hys, heq⟩ := hgo <;> cases heq
      exact .inr ⟨rest, nodes, hxs, hys⟩
  · rintro (hxs | ⟨rest, nodes, hxs, hys⟩)
    · exact ⟨_, hxs, rfl⟩
    · exact ⟨_, hxs, _, hys, rfl⟩

/-- A reply that is reframed if it is an error leaves the frame of a sequence. -/
theorem reframed_iff_map {framed : Prop} {q r : Except Halt Reply}
    (hframed : ∀ e, q = .ok (.error e) → framed) :
    Reframed framed r q ↔ r = q.map Reply.inSequence := by
  rcases q with halt | e | made
  · simp [Reframed, ← or_and_right, em]
  · simp [Reframed, hframed e rfl]
  · simp [Reframed, Reply.inSequence, ← or_and_right, em]

section Stripping

variable {bindings : Bindings} {S : Grammar → Prop} (h : Repertoire bindings S) {cls : CharClass}
  (hignore : S (.ignore cls)) {body : Grammar} {w : Window} {r : Except Halt Reply}
include h hignore

/-- What is ignored twice on both sides of a part is ignored once. -/
theorem Repertoire.inTurn_ignore_twice :
    InTurn bindings
        ([.ignore cls] ++ [.ignore cls, body, .ignore cls] ++ [.ignore cls]) w r ↔
      InTurn bindings [.ignore cls, body, .ignore cls] w r := by
  have htwice : ∀ w r, InTurn bindings [.ignore cls, .ignore cls] w r ↔
      InTurn bindings [.ignore cls] w r := fun _ _ =>
    h.inTurn_twice hignore fun _ _ _ => h.ignore_idle hignore
  -- The two in front of `body` are exchanged for one, and then the two behind it.
  have hbefore : InTurn bindings
      ([] ++ [.ignore cls, .ignore cls] ++ [body, .ignore cls, .ignore cls]) w r ↔
        InTurn bindings ([] ++ [.ignore cls] ++ [body, .ignore cls, .ignore cls]) w r :=
    inTurn_congr htwice
  have hbehind : InTurn bindings
      ([.ignore cls, body] ++ [.ignore cls, .ignore cls] ++ []) w r ↔
        InTurn bindings ([.ignore cls, body] ++ [.ignore cls] ++ []) w r := inTurn_congr htwice
  exact hbefore.trans hbehind

/-- An error between parts that cannot fail is that of a part between them. -/
theorem Repertoire.failsAmong_of_ignored {ys : List Grammar} {e : ParseError}
    (hr : InTurn bindings ([.ignore cls] ++ ys ++ [.ignore cls]) w (.ok (.error e))) :
    FailsAmong bindings [.ignore cls] ys w := by
  rw [List.append_assoc] at hr
  obtain hfirst | ⟨rest, nodes, hmatched, hbehind⟩ := inTurn_append_failed_iff.mp hr
  · exact absurd (inTurn_singleton.mp hfirst) (h.not_ignore_failed hignore e)
  · obtain hys | ⟨_, _, -, hlast⟩ := inTurn_append_failed_iff.mp hbehind
    · exact ⟨rest, nodes, e, hmatched, hys⟩
    · exact absurd (inTurn_singleton.mp hlast) (h.not_ignore_failed hignore e)

/-- The parts of a strip of something stripped reply like those of the strip, in a frame more. -/
theorem Repertoire.inTurn_stripped {inner : Grammar} (hinner : S inner)
    (hmade : (Grammar.stripWith body cls).CanMake inner) :
    InTurn bindings [.ignore cls, inner, .ignore cls] w r ↔
      ∃ t, InTurn bindings [.ignore cls, body, .ignore cls] w t ∧ r = t.map Reply.inSequence := by
  have hxs : ∀ g ∈ [Grammar.ignore cls], S g := by
    intro g hg
    rwa [List.mem_singleton.mp hg]
  have hsplice : InTurn bindings ([.ignore cls] ++ [inner] ++ [.ignore cls]) w r ↔ _ :=
    inTurn_splice h hxs hinner hmade
  refine hsplice.trans (exists_congr fun t => ?_)
  rw [← h.inTurn_ignore_twice hignore]
  refine and_congr_right fun ht => reframed_iff_map ?_
  rintro e rfl
  exact h.failsAmong_of_ignored hignore ht

end Stripping

/-- **Stripping is idempotent.**  Stripped twice, a grammar matches what it matches stripped once,
with the same rest and the same nodes, and fails with the same errors: only one that someone may
recover from has one more frame in its context. -/
theorem stripped_twice_answers_iff {env : Environment} {S S' : Grammar → Prop}
    (h : Repertoire env.bindings S) (h' : Repertoire env.bindings S') {body : Grammar}
    {cls : CharClass} {twice once : Grammar}
    (htwice : Build.CanMake (do
      let inner ← Grammar.stripWith body cls
      Grammar.stripWith inner cls) twice)
    (honce : (Grammar.stripWith body cls).CanMake once) (hg : S twice) (hg' : S' once) {w : Window}
    {s s' : Session} (hs : s.Reached env S w.buffer) (hs' : s'.Reached env S' w.buffer)
    (parent : NodeBuilder) :
    (∀ rest after, twice.Answers env w parent s (.ok ⟨.ok rest, after⟩) ↔
      once.Answers env w parent s' (.ok ⟨.ok rest, after⟩)) ∧
    (∀ e after, twice.Answers env w parent s (.ok ⟨.error e, after⟩) ↔
      ∃ e', once.Answers env w parent s' (.ok ⟨.error e', after⟩) ∧ e.SameButFrame True e') ∧
    (∀ after, (∃ e, twice.Answers env w parent s (.ok ⟨.error e, after⟩)) ↔
      ∃ e', once.Answers env w parent s' (.ok ⟨.error e', after⟩)) ∧
    ∀ halt, twice.Answers env w parent s (.error halt) ↔
      once.Answers env w parent s' (.error halt) := by
  obtain ⟨inner, hinner, houter⟩ := htwice.of_bind
  have hparts := h.parts_of_liftedSequence hg houter
  have hreplies : ∀ r, twice.RepliesAlone env.bindings w r ↔
      ∃ q, once.RepliesAlone env.bindings w q ∧ Reframed True r q := by
    intro r
    simp only [h.repliesAlone_liftedSequence hg houter, h'.repliesAlone_liftedSequence hg' honce,
      h.inTurn_stripped (hparts _ (.head _)) (hparts inner (.tail _ (.head _))) hinner]
    simp [Reframed]
  have hfailed : ∀ e after, twice.Answers env w parent s (.ok ⟨.error e, after⟩) ↔
      ∃ e', once.Answers env w parent s' (.ok ⟨.error e', after⟩) ∧ e.SameButFrame True e' := by
    intro e after
    simp only [h.answers_failed_iff hg hs, h'.answers_failed_iff hg' hs', hreplies,
      reframed_failed_iff]
    constructor
    · rintro ⟨rfl, _, hq, e', rfl, he⟩
      exact ⟨e', ⟨rfl, hq⟩, he⟩
    · rintro ⟨e', ⟨rfl, hq⟩, he⟩
      exact ⟨rfl, _, hq, e', rfl, he⟩
  refine ⟨fun rest after => ?_, hfailed, fun after => ⟨?_, ?_⟩, fun halt => ?_⟩
  · simp only [h.answers_matched_iff hg hs, h'.answers_matched_iff hg' hs', hreplies,
      reframed_matched_iff, exists_eq_right]
  · rintro ⟨e, he⟩
    obtain ⟨e', he', -⟩ := (hfailed e after).mp he
    exact ⟨e', he'⟩
  · rintro ⟨e', he'⟩
    obtain ⟨e, hframe⟩ := ParseError.exists_sameButFrame True e'
    exact ⟨e, (hfailed e after).mpr ⟨e', he', hframe⟩⟩
  · simp only [h.answers_halted_iff hg hs, h'.answers_halted_iff hg' hs', hreplies,
      reframed_halted_iff, exists_eq_right]

/-- There is no letter behind the blank.  Its error comes out of two strips, or of one. -/
theorem blanks_stripped_twice_answers_iff :
    let cls : CharClass := .oneOf [' ']
    let body : Grammar := .exact "a" none
    let inner : Grammar := .memoized ⟨2⟩
      (.lift (.memoized ⟨1⟩ (.sequence [.ignore cls, body, .ignore cls] none)) none)
    let twice : Grammar := .memoized ⟨4⟩
      (.lift (.memoized ⟨3⟩ (.sequence [.ignore cls, inner, .ignore cls] none)) none)
    let w := Window.ofText " b"
    let env : Environment := ⟨[], true⟩
    let s := ((twice.consume env 9 w .empty).exec {}).2
    Repertoire env.bindings (· ∈ twice.subgrammars) ∧
      Repertoire env.bindings (· ∈ inner.subgrammars) ∧
      Build.CanMake (do
        let inner ← Grammar.stripWith body cls
        Grammar.stripWith inner cls) twice ∧
      (Grammar.stripWith body cls).CanMake inner ∧
      s.Reached env (· ∈ twice.subgrammars) w.buffer ∧
      ∃ e e', twice.Answers env w .empty s (.ok ⟨.error e, .empty⟩) ∧
        inner.Answers env w .empty {} (.ok ⟨.error e', .empty⟩) ∧
        e.SameButFrame True e' ∧ e.position = 1 ∧
        e.context = some "Sequence failed -> Sequence failed" := by
  intro cls body inner twice w env s
  have h : Repertoire env.bindings (· ∈ twice.subgrammars) := .of_nodup (by decide) (by decide)
  have h' : Repertoire env.bindings (· ∈ inner.subgrammars) := .of_nodup (by decide) (by decide)
  have htwice : Build.CanMake (do
      let inner ← Grammar.stripWith body cls
      Grammar.stripWith inner cls) twice := ⟨⟨1, 0⟩, _, rfl⟩
  have honce : (Grammar.stripWith body cls).CanMake inner := ⟨⟨1, 0⟩, _, rfl⟩
  have hg : twice ∈ twice.subgrammars := Grammar.self_mem_subgrammars twice
  have hg' : inner ∈ inner.subgrammars := Grammar.self_mem_subgrammars inner
  have hs : s.Reached env (· ∈ twice.subgrammars) w.buffer :=
    .consumed 9 .empty (.fresh rfl) hg rfl
  have hs' : ({} : Session).Reached env (· ∈ inner.subgrammars) w.buffer := .fresh rfl
  let second : Window := ⟨w.buffer, 1, 2, by decide, by decide⟩
  let mismatch : ParseError := .mismatch "Token mismatch (a)" 1 none
  have hblank : (Grammar.ignore cls).RepliesAlone env.bindings w (.ok (.ok (second, []))) :=
    ⟨ok_ne_outOfFuel _, 2, by rfl⟩
  have hletter : body.RepliesAlone env.bindings second (.ok (.error mismatch)) :=
    ⟨ok_ne_outOfFuel _, 1, by rfl⟩
  have hreply : inner.RepliesAlone env.bindings w (.ok (.error mismatch.inSequence)) :=
    (h'.liftedSequence_failed_iff hg' honce).mpr ⟨_, .matched hblank (.failed hletter), rfl⟩
  have hanswers : inner.Answers env w .empty {} (.ok ⟨.error mismatch.inSequence, .empty⟩) :=
    (h'.answers_failed_iff hg' hs').mpr ⟨rfl, hreply⟩
  have hframe : mismatch.inSequence.inSequence.SameButFrame True mismatch.inSequence :=
    ParseError.sameButFrame_iff.mpr (.inl ⟨trivial, rfl⟩)
  obtain ⟨-, hfailed, -⟩ := stripped_twice_answers_iff h h' htwice honce hg hg' hs hs' .empty
  exact ⟨h, h', htwice, honce, hs, _, _, (hfailed _ _).mpr ⟨_, hanswers, hframe⟩, hanswers, hframe,
    rfl, rfl⟩

end Packrat
