import Packrat.Proofs.Sequences

/-! # Parsing up to the end of the text

A parse that must reach the end of its text looks at what its grammar has left over.  The grammar
may ask for the end itself instead, as the last part of a sequence (`Grammar.terminal`), and then it
does not matter whether the parse looks.  Both ways come to the same (`whole_text_verdicts_agree`).

A parse ends in a **verdict** on the reply of its grammar (`Repertoire.endsIn_parseWith_iff`), and
asking for the end only changes this reply (`Repertoire.repliesAlone_terminal`).  All the verdicts
judge alike (`Judges`): they give the first node if nothing is left over, they refuse what leaves
something over, and they keep an error that no one may recover from.
-/
namespace Packrat

/-- With enough fuel, `x` ends in `r` when it starts in the session `s`. -/
def Eval.EndsIn {α : Type} (x : Nat → Eval α) (s : Session) (r : Except Halt α) : Prop :=
  r ≠ .error .outOfFuel ∧ ∃ fuel, ((x fuel).exec s).1 = r

/-! ## The verdict of a parse -/

/-- What a parse makes of the reply of its grammar. -/
def Config.verdict (config : Config) : Reply → Except ParseError Node
  | .error e => .error e
  | .ok (rest, nodes) =>
    if config.requireCompleteInput && !rest.isEmpty then
      .error (.remainingInput (rest.preview config.errorPreviewChars) rest.start none)
    else Grammar.firstNode rest (NodeBuilder.empty.extend nodes)

section Verdicts

variable {env : Environment} {config : Config} {g : Grammar} {text : String} {s s' : Session}
  {r : Except Halt (Except ParseError Node)}

theorem Parses.eq_verdict {q : Except Halt Reply}
    (h : Parses config (q.map (Reply.outcome .empty)) s r s') : r = q.map config.verdict := by
  rcases q with halt | e | ⟨rest, nodes⟩
  · cases h with
    | halts => rfl
  · cases h with
    | fails _ => rfl
    | aborts _ => rfl
  · cases h with
    | leaves hcomplete hleft =>
      exact congrArg Except.ok (if_pos (by rw [hcomplete, hleft]; rfl)).symm
    | finishes hend => exact congrArg Except.ok (if_neg (Bool.eq_false_iff.mp hend)).symm

variable {S : Grammar → Prop} (h : Repertoire env.bindings S) (hg : S g)
include h hg

/-- A parse that has room for its table passes its verdict on what its grammar comes to. -/
theorem Repertoire.parseWith_verdict (hroom : config.memoCapacity ≤ MemoTable.maxCapacity)
    (text : String) (fuel : Nat) (s : Session) :
    ∃ q s₀, s₀.Valid env S (Window.ofText text).buffer ∧
      ((g.consume env fuel (.ofText text) .empty).exec s₀).1 = q.map (Reply.outcome .empty) ∧
      (q = .error .outOfFuel ∨ Settles env.bindings (g.plan env.bindings (.ofText text)) q) ∧
      ((g.parseWith env fuel config text).exec s).1 = q.map config.verdict := by
  rcases hexec : (g.parseWith env fuel config text).exec s with ⟨r, s'⟩
  obtain ⟨o, s₁, hconsume, hparses⟩ := Grammar.parseWith_parses_of_room hroom hexec
  have hvalid : Session.Valid env S (Window.ofText text).buffer
      { s.note (.parseStarted text.utf8ByteSize) with memo := .empty } :=
    h.valid_of_reached (.fresh rfl)
  obtain ⟨q, s₂, hq, hsettles, -⟩ := h.consume_exec hg rfl fuel .empty hvalid
  obtain ⟨rfl, rfl⟩ := Prod.mk.inj (hq.symm.trans hconsume)
  exact ⟨q, _, hvalid, congrArg Prod.fst hq, hsettles, hparses.eq_verdict⟩

/-- **A parse ends in its verdict on the reply of the grammar.** -/
theorem Repertoire.endsIn_parseWith_iff (hroom : config.memoCapacity ≤ MemoTable.maxCapacity) :
    Eval.EndsIn (fun fuel => g.parseWith env fuel config text) s r ↔
      ∃ q, g.RepliesAlone env.bindings (.ofText text) q ∧ r = q.map config.verdict := by
  simp only [Repetition.repliesAlone_iff h hg]
  constructor
  · rintro ⟨hr, fuel, rfl⟩
    obtain ⟨q, -, -, -, hsettles, hverdict⟩ := h.parseWith_verdict hg hroom text fuel s
    have hq : q ≠ .error .outOfFuel := by
      rintro rfl
      exact hr hverdict
    exact ⟨q, ⟨hq, hsettles.resolve_left hq⟩, hverdict⟩
  · rintro ⟨q, ⟨hq, hs⟩, rfl⟩
    -- The fuel that suffices for the grammar suffices for the parse.
    obtain ⟨fuel, hfuel⟩ := h.exists_fuel_consume hg rfl hs hq
    obtain ⟨q', s₀, hvalid, hconsume, -, hverdict⟩ := h.parseWith_verdict hg hroom text fuel s
    obtain rfl := map_outcome_injective
      ((hfuel fuel (Nat.le_refl _) .empty s₀ hvalid).symm.trans hconsume)
    refine ⟨?_, fuel, hverdict⟩
    rcases q with halt | reply
    · exact error_ne_outOfFuel hq
    · exact ok_ne_outOfFuel _

end Verdicts

/-! ## Asking for the end -/

/-- The reply with the end of the text asked for behind it. -/
def Reply.upToEnd : Reply → Reply
  | .error e => .error e.inSequence
  | .ok (rest, nodes) =>
    if rest.isEmpty then .ok (rest, nodes)
    else .error (ParseError.mismatch "End of input expected" rest.start none).inSequence

section Terminals

variable {bindings : Bindings} {S : Grammar → Prop} (h : Repertoire bindings S) {w : Window}
  {r : Except Halt Reply}
include h

theorem Repertoire.repliesAlone_endOfInput (hg : S .endOfInput) :
    Grammar.endOfInput.RepliesAlone bindings w r ↔ r = .ok (Grammar.endReply w) := by
  have hplan : Grammar.endOfInput.plan bindings w = .check (.ok (Grammar.endReply w)) := rfl
  rw [h.repliesAlone_of_asks_nothing hg hplan, mapError_ok]

/-- A grammar that asks for the end replies as what it is made of, up to the end. -/
theorem Repertoire.repliesAlone_terminal {body whole : Grammar} (hg : S whole)
    (hmade : (Grammar.terminal body).CanMake whole) :
    whole.RepliesAlone bindings w r ↔
      ∃ q, body.RepliesAlone bindings w q ∧ r = q.map Reply.upToEnd := by
  have hend : S .endOfInput := h.parts_of_liftedSequence hg hmade _ (.tail _ (.head _))
  have hbehind : ∀ q t, GoesOn (InTurn bindings [.endOfInput]) q t →
      t.map Reply.inSequence = q.map Reply.upToEnd := by
    rintro (halt | e | ⟨rest, nodes⟩) t hgo
    · obtain rfl : t = _ := hgo
      rfl
    · obtain rfl : t = _ := hgo
      rfl
    · obtain ⟨p, hp, rfl⟩ := hgo
      obtain rfl := (h.repliesAlone_endOfInput hend).mp (inTurn_singleton.mp hp)
      cases hempty : rest.isEmpty <;>
        simp [Grammar.endReply, Reply.upToEnd, Reply.behind, Reply.inSequence, hempty]
  rw [h.repliesAlone_liftedSequence hg hmade]
  simp only [inTurn_cons]
  constructor
  · rintro ⟨t, ⟨q, hq, hgo⟩, rfl⟩
    exact ⟨q, hq, hbehind q t hgo⟩
  · rintro ⟨q, hq, rfl⟩
    obtain ⟨t, hgo⟩ : ∃ t, GoesOn (InTurn bindings [.endOfInput]) q t := by
      rcases q with halt | e | ⟨rest, nodes⟩
      · exact ⟨_, rfl⟩
      · exact ⟨_, rfl⟩
      · exact ⟨_, _, inTurn_singleton.mpr ((h.repliesAlone_endOfInput hend).mpr rfl), rfl⟩
    exact ⟨t, ⟨q, hq, hgo⟩, (hbehind q t hgo).symm⟩

end Terminals

/-- A parse of a grammar that asks for the end. -/
theorem Repertoire.endsIn_parseWith_terminal_iff {env : Environment} {S : Grammar → Prop}
    (h : Repertoire env.bindings S) {body whole : Grammar} (hg : S whole)
    (hmade : (Grammar.terminal body).CanMake whole) {config : Config}
    (hroom : config.memoCapacity ≤ MemoTable.maxCapacity) {text : String} {s : Session}
    {r : Except Halt (Except ParseError Node)} :
    Eval.EndsIn (fun fuel => whole.parseWith env fuel config text) s r ↔
      ∃ q, body.RepliesAlone env.bindings (.ofText text) q ∧
        r = q.map fun reply => config.verdict reply.upToEnd := by
  simp only [h.endsIn_parseWith_iff hg hroom, h.repliesAlone_terminal hg hmade, exists_map_map_iff]

/-! ## Judging a reply to the whole text -/

/-- The first node of a reply that leaves nothing over. -/
def Reply.wholeNode? : Reply → Option Node
  | .error _ => none
  | .ok (rest, nodes) => if rest.isEmpty then nodes.head? else none

/-- What a verdict on a reply to the whole text must be: the first node if nothing is left over,
some error if something is, and the error of the reply if there is one and no one may recover from
it. -/
structure Judges (f : Reply → Except ParseError Node) : Prop where
  atEnd : ∀ rest nodes, rest.isEmpty = true →
    f (.ok (rest, nodes)) = Grammar.firstNode rest (NodeBuilder.empty.extend nodes)
  beforeEnd : ∀ rest nodes, rest.isEmpty = false → ∃ e, f (.ok (rest, nodes)) = .error e
  failed : ∀ e, ∃ e', f (.error e) = .error e' ∧ (e.isRecoverable = false → e' = e)

/-- The verdict of a parse that looks at what is left over. -/
theorem judges_verdict {config : Config} (hcomplete : config.requireCompleteInput = true) :
    Judges config.verdict where
  atEnd rest nodes hempty := if_neg (by simp [hempty])
  beforeEnd rest nodes hempty := ⟨_, if_pos (by simp [hcomplete, hempty])⟩
  failed e := ⟨e, rfl, fun _ => rfl⟩

/-- The verdict of any parse, if the grammar has asked for the end. -/
theorem judges_verdict_upToEnd (config : Config) :
    Judges fun reply => config.verdict reply.upToEnd where
  atEnd rest nodes hempty := by
    rw [Reply.upToEnd, if_pos hempty]
    exact if_neg (by simp [hempty])
  beforeEnd rest nodes hempty := by
    rw [Reply.upToEnd, if_neg (by simp [hempty])]
    exact ⟨_, rfl⟩
  failed e := ⟨e.inSequence, rfl, ParseError.inSequence_of_not_isRecoverable⟩

theorem firstNode_eq_ok_iff {rest : Window} {nodes : List Node} {node : Node} :
    Grammar.firstNode rest (NodeBuilder.empty.extend nodes) = .ok node ↔
      nodes.head? = some node := by
  have hfirst : (NodeBuilder.empty.extend nodes).children[0]? = nodes.head? := by
    rw [← Array.getElem?_toList, NodeBuilder.toList_children_extend, List.head?_eq_getElem?]
    rfl
  rw [Grammar.firstNode, hfirst]
  cases nodes.head? <;> simp

theorem Judges.ok_iff {f : Reply → Except ParseError Node} (hf : Judges f) (reply : Reply)
    (node : Node) : f reply = .ok node ↔ reply.wholeNode? = some node := by
  rcases reply with e | ⟨rest, nodes⟩
  · obtain ⟨e', he', -⟩ := hf.failed e
    simp [he', Reply.wholeNode?]
  · cases hempty : rest.isEmpty with
    | false =>
      obtain ⟨e, he⟩ := hf.beforeEnd rest nodes hempty
      simp [he, Reply.wholeNode?, hempty]
    | true => simp [hf.atEnd rest nodes hempty, firstNode_eq_ok_iff, Reply.wholeNode?, hempty]

theorem Judges.exists_error_iff {f : Reply → Except ParseError Node} (hf : Judges f)
    (reply : Reply) : (∃ e, f reply = .error e) ↔ reply.wholeNode? = none := by
  constructor
  · rintro ⟨e, he⟩
    cases hnode : reply.wholeNode? with
    | none => rfl
    | some node =>
      rw [(hf.ok_iff reply node).mpr hnode] at he
      cases he
  · intro hnone
    cases hverdict : f reply with
    | error e => exact ⟨e, rfl⟩
    | ok node =>
      rw [(hf.ok_iff reply node).mp hverdict] at hnone
      cases hnone

/-- The call `x` ends in a judgement of what `g` replies to `w`. -/
def JudgesReply (bindings : Bindings) (g : Grammar) (w : Window)
    (x : Nat → Eval (Except ParseError Node)) : Prop :=
  ∃ f, Judges f ∧ ∀ s r, Eval.EndsIn x s r ↔ ∃ q, g.RepliesAlone bindings w q ∧ r = q.map f

namespace JudgesReply

variable {bindings : Bindings} {g : Grammar} {w : Window}
  {x : Nat → Eval (Except ParseError Node)} (hx : JudgesReply bindings g w x) {s s' : Session}
include hx

theorem endsIn_ok_iff {node : Node} :
    Eval.EndsIn x s (.ok (.ok node)) ↔
      ∃ reply, g.RepliesAlone bindings w (.ok reply) ∧ reply.wholeNode? = some node := by
  obtain ⟨f, hf, hends⟩ := hx
  simp only [hends, exists_map_eq_ok_iff, ← hf.ok_iff]
  exact exists_congr fun reply => and_congr_right fun _ => eq_comm

theorem exists_endsIn_error_iff :
    (∃ e, Eval.EndsIn x s (.ok (.error e))) ↔
      ∃ reply, g.RepliesAlone bindings w (.ok reply) ∧ reply.wholeNode? = none := by
  obtain ⟨f, hf, hends⟩ := hx
  simp only [hends, exists_map_eq_ok_iff, ← hf.exists_error_iff]
  constructor
  · rintro ⟨e, reply, hq, he⟩
    exact ⟨reply, hq, e, he.symm⟩
  · rintro ⟨reply, hq, e, he⟩
    exact ⟨e, reply, hq, he.symm⟩

theorem endsIn_fatal {e : ParseError} (he : e.isRecoverable = false)
    (hreply : g.RepliesAlone bindings w (.ok (.error e))) :
    Eval.EndsIn x s (.ok (.error e)) := by
  obtain ⟨f, hf, hends⟩ := hx
  obtain ⟨e', hverdict, hsame⟩ := hf.failed e
  rw [hsame he] at hverdict
  exact (hends s _).mpr (exists_map_eq_ok_iff.mpr ⟨_, hreply, hverdict.symm⟩)

theorem endsIn_halted_iff {halt : Halt} :
    Eval.EndsIn x s (.error halt) ↔ g.RepliesAlone bindings w (.error halt) := by
  obtain ⟨f, -, hends⟩ := hx
  rw [hends, exists_map_eq_halted_iff]

/-- It ends in one way at most, whatever session it starts in. -/
theorem endsIn_iff_eq {S : Grammar → Prop} (h : Repertoire bindings S) (hg : S g)
    {r r' : Except Halt (Except ParseError Node)} (hends : Eval.EndsIn x s r) :
    Eval.EndsIn x s' r' ↔ r' = r := by
  obtain ⟨f, -, hiff⟩ := hx
  obtain ⟨q, hq, rfl⟩ := (hiff s r).mp hends
  rw [hiff]
  constructor
  · rintro ⟨q', hq', rfl⟩
    rw [h.repliesAlone_unique hg hq hq']
  · rintro rfl
    exact ⟨q, hq, rfl⟩

end JudgesReply

/-- **Looking at what is left over and asking for the end come to the same.**  A parse of `body`, a
parse of it up to the end, and one of the latter that may leave text over end in the same node; they
fail together, and with the error of `body` if no one may recover from it. -/
theorem whole_text_verdicts_agree {env : Environment} {S : Grammar → Prop}
    (h : Repertoire env.bindings S) {body whole : Grammar}
    (hmade : (Grammar.terminal body).CanMake whole) (hg : S whole) (text : String) :
    let calls : List (Nat → Eval (Except ParseError Node)) :=
      [fun fuel => body.parse env fuel text, fun fuel => whole.parse env fuel text,
        fun fuel => whole.sloppyParse env fuel text]
    (∀ x ∈ calls, ∀ y ∈ calls, ∀ s s' : Session,
      (∀ node, Eval.EndsIn x s (.ok (.ok node)) →
        ∀ r, Eval.EndsIn y s' r ↔ r = .ok (.ok node)) ∧
      ((∃ e, Eval.EndsIn x s (.ok (.error e))) ↔ ∃ e, Eval.EndsIn y s' (.ok (.error e))) ∧
      ∀ halt, Eval.EndsIn x s (.error halt) → ∀ r, Eval.EndsIn y s' r ↔ r = .error halt) ∧
    ∀ e, e.isRecoverable = false →
      body.Answers env (.ofText text) .empty {} (.ok ⟨.error e, .empty⟩) →
        ∀ x ∈ calls, ∀ (s : Session) r, Eval.EndsIn x s r ↔ r = .ok (.error e) := by
  intro calls
  have hbody : S body := h.parts_of_liftedSequence hg hmade _ (.head _)
  have hjudges : ∀ x ∈ calls, JudgesReply env.bindings body (.ofText text) x := by
    intro x hx
    simp only [calls, List.mem_cons, List.not_mem_nil, or_false] at hx
    obtain rfl | rfl | rfl := hx
    · exact ⟨_, judges_verdict rfl, fun s r => h.endsIn_parseWith_iff hbody (by decide)⟩
    · exact ⟨_, judges_verdict_upToEnd _, fun s r =>
        h.endsIn_parseWith_terminal_iff hg hmade (by decide)⟩
    · exact ⟨_, judges_verdict_upToEnd _, fun s r =>
        h.endsIn_parseWith_terminal_iff hg hmade (by decide)⟩
  refine ⟨fun x hx y hy s s' => ⟨fun node hnode r => ?_, ?_, fun halt hhalt r => ?_⟩,
    fun e he hanswers x hx s r => ?_⟩
  · have hsame : Eval.EndsIn y s' (.ok (.ok node)) :=
      (hjudges y hy).endsIn_ok_iff.mpr ((hjudges x hx).endsIn_ok_iff.mp hnode)
    exact (hjudges y hy).endsIn_iff_eq h hbody hsame
  · rw [(hjudges x hx).exists_endsIn_error_iff, (hjudges y hy).exists_endsIn_error_iff]
  · have hsame : Eval.EndsIn y s' (.error halt) :=
      (hjudges y hy).endsIn_halted_iff.mpr ((hjudges x hx).endsIn_halted_iff.mp hhalt)
    exact (hjudges y hy).endsIn_iff_eq h hbody hsame
  · obtain ⟨-, hreply⟩ := (h.answers_failed_iff hbody (.fresh rfl)).mp hanswers
    have hfatal : Eval.EndsIn x s (.ok (.error e)) := (hjudges x hx).endsIn_fatal he hreply
    exact (hjudges x hx).endsIn_iff_eq h hbody hfatal

/-- Two letters are matched one by one, and the first one is the node of all three calls. -/
theorem letters_whole_text_verdicts_agree :
    let letter : Grammar := .exact "a" none
    let body : Grammar := .memoized ⟨2⟩
      (.lift (.memoized ⟨1⟩ (.repetition 2 none letter none)) none)
    let whole : Grammar := .memoized ⟨4⟩
      (.lift (.memoized ⟨3⟩ (.sequence [body, .endOfInput] none)) none)
    let env : Environment := ⟨[], true⟩
    Repertoire env.bindings (· ∈ whole.subgrammars) ∧
      (Grammar.terminal body).CanMake whole ∧
      ∃ node, Eval.EndsIn (fun fuel => body.parse env fuel "aa") {} (.ok (.ok node)) ∧
        Eval.EndsIn (fun fuel => whole.parse env fuel "aa") {} (.ok (.ok node)) ∧
        Eval.EndsIn (fun fuel => whole.sloppyParse env fuel "aa") {} (.ok (.ok node)) ∧
        node.span = some ⟨0, 1⟩ := by
  intro letter body whole env
  have h : Repertoire env.bindings (· ∈ whole.subgrammars) := .of_nodup (by decide) (by decide)
  have hmade : (Grammar.terminal body).CanMake whole := ⟨⟨3, 0⟩, _, rfl⟩
  have hg : whole ∈ whole.subgrammars := Grammar.self_mem_subgrammars whole
  have hbody : body ∈ whole.subgrammars := h.parts_of_liftedSequence hg hmade _ (.head _)
  let w := Window.ofText "aa"
  let node (start : Nat) : Node := ⟨some ⟨start, start + 1⟩, some "a", none, []⟩
  let rest : Window := ⟨w.buffer, 2, 2, by decide, by decide⟩
  have hreply : body.RepliesAlone env.bindings w (.ok (.ok (rest, [node 0, node 1]))) :=
    ⟨ok_ne_outOfFuel _, 9, by rfl⟩
  have hends : Eval.EndsIn (fun fuel => body.parse env fuel "aa") {} (.ok (.ok (node 0))) :=
    (h.endsIn_parseWith_iff hbody (by decide)).mpr ⟨_, hreply, by rfl⟩
  obtain ⟨hagree, -⟩ := whole_text_verdicts_agree h hmade hg "aa"
  obtain ⟨hwhole, -⟩ := hagree _ (.head _) _ (.tail _ (.head _)) {} {}
  obtain ⟨hsloppy, -⟩ := hagree _ (.head _) _ (.tail _ (.tail _ (.head _))) {} {}
  exact ⟨h, hmade, node 0, hends, (hwhole _ hends _).mpr rfl, (hsloppy _ hends _).mpr rfl, rfl⟩

end Packrat
