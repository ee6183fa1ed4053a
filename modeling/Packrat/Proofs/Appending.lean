import Packrat.Proofs.LooksUp

/-! # Consumers only append

A consumer is handed the builder of its parent, which may hold anything by then.  This module proves
that the consumer cannot tell (`Grammar.consume_blind`): from one session it comes to the same reply
and the same session with every builder.  What the reply says is all that happens to the builder: a
match appends the nodes it made, and an error leaves the builder as it was.  That holds of every
grammar, whatever is in the memo table and however deep the nesting may go.

Two rules carry the proof.  A computation that does not see the builder may come first
(`Blind.after`): the productions, which fill builders of their own, the memo table and the log.  And
a part that is blind itself may be handed the builder, if what follows is blind for each of its
replies (`Blind.andThen`): the frames that hand their parent's builder on.
-/
namespace Packrat

/-- **What is done does not depend on the builder**, and all that is done to the builder is what a
reply says. -/
def Blind (f : NodeBuilder → Eval Outcome) : Prop :=
  ∀ s, ∃ (r : Except Halt Reply) (s' : Session), ∀ parent,
    (f parent).exec s = (r.map (Reply.outcome parent), s')

namespace Blind

variable {f : NodeBuilder → Eval Outcome}

/-- A computation that has its reply already. -/
theorem of_exec {r : Except Halt Reply}
    (h : ∀ parent s, (f parent).exec s = (r.map (Reply.outcome parent), s)) : Blind f := by
  intro s
  exact ⟨r, s, fun parent => h parent s⟩

/-- An error leaves the builder alone. -/
theorem failWith (e : ParseError) : Blind (failWith e) := by
  have hexec : ∀ parent s,
      (Packrat.failWith e parent).exec s =
        ((Except.ok (.error e) : Except Halt Reply).map (Reply.outcome parent), s) :=
    fun _ _ => rfl
  exact of_exec hexec

/-- A match of what makes no nodes leaves the builder alone. -/
theorem succeed (rest : Window) : Blind (succeed rest) := by
  have hexec : ∀ parent s,
      (Packrat.succeed rest parent).exec s =
        ((Except.ok (.ok (rest, [])) : Except Halt Reply).map (Reply.outcome parent), s) :=
    fun _ _ => rfl
  exact of_exec hexec

/-- A finished node is handed over. -/
theorem hand (production : Production) (rest : Window) (me : Node) :
    Blind fun parent => Eval.check (production.apply parent me) >>= Packrat.succeed rest :=
  of_exec fun parent _ => Grammar.hand_exec production rest parent me

/-- A computation that does not see the builder comes first. -/
theorem after {α : Type} (x : Eval α) {f : α → NodeBuilder → Eval Outcome}
    (hf : ∀ a, Blind (f a)) : Blind fun parent => x >>= fun a => f a parent := by
  intro s
  rcases hx : x.exec s with ⟨halt | a, s₁⟩
  · refine ⟨.error halt, s₁, fun parent => ?_⟩
    rw [Eval.exec_bind, hx]
    rfl
  · obtain ⟨r, s', hr⟩ := hf a s₁
    refine ⟨r, s', fun parent => ?_⟩
    rw [Eval.exec_bind, hx]
    exact hr parent

/-- The builder is handed to a part, and what the part leaves of it to what follows. -/
theorem andThen {next : Outcome → Eval Outcome} (hf : Blind f)
    (hnext : ∀ reply : Reply, Blind fun parent => next (reply.outcome parent)) :
    Blind fun parent => f parent >>= next := by
  intro s
  obtain ⟨halt | reply, s₁, hr⟩ := hf s
  · refine ⟨.error halt, s₁, fun parent => ?_⟩
    rw [Eval.exec_bind, hr]
    rfl
  · obtain ⟨r, s', hr'⟩ := hnext reply s₁
    refine ⟨r, s', fun parent => ?_⟩
    rw [Eval.exec_bind, hr]
    exact hr' parent

end Blind

namespace Grammar

variable {run : Run} {env : Environment}

/-- A memoizing consumer that works its result out fills a builder of its own. -/
theorem consumePlain_blind (production : Production) (w : Window) :
    Blind (consumePlain run production w) := by
  refine .after (production.produce run w .empty) fun o => ?_
  rcases o with ⟨e | rest, me⟩
  · exact .failWith e
  · refine .after (Eval.check (me.withSpan w.start rest.start).build) fun node => ?_
    exact .hand production rest node

theorem consumeMissed_blind (production : Production) (key : MemoKey) (w : Window) :
    Blind (consumeMissed run production key w) := by
  refine .after (Eval.emit (.produced key)) fun _ => ?_
  refine .after (production.produce run w .empty) fun o => ?_
  rcases o with ⟨e | rest, me⟩
  · cases he : e.isRecoverable with
    | false =>
      simp only [he, Bool.false_eq_true, if_false]
      exact .failWith e
    | true =>
      simp only [he, if_true]
      refine .after (Eval.onMemo (·.keepFailure key e)) fun kept => ?_
      rcases kept with e' | _
      · exact .failWith e'
      · exact .failWith e
  · refine .after (Eval.check (me.withSpan w.start rest.start).build) fun node => ?_
    refine .after (Eval.onMemo (·.keep Node.same key node)) fun kept => ?_
    rcases kept with e | stored
    · exact .failWith e
    · exact .hand production rest stored

/-- A hit fills the builder as the first match did, before it is known where to go on. -/
theorem consumeCached_blind (id : ConsumerId) (production : Production) (w : Window) :
    Blind (consumeCached run id production w) := by
  refine .after (Eval.emit (.requested ⟨w.start, w.stop, id⟩)) fun _ => ?_
  refine .after (Eval.onMemo (·.ask ⟨w.start, w.stop, id⟩)) fun found => ?_
  rcases found with e | _ | me
  · exact .failWith e
  · exact consumeMissed_blind production ⟨w.start, w.stop, id⟩ w
  · refine .of_exec (r := production.foundReply w me) fun parent s => ?_
    rw [Eval.exec_bind, Eval.exec_check, Production.apply_eq, Production.foundReply]
    cases production.handed me with
    | error v => rfl
    | ok nodes =>
      dsimp only [map_ok, mapError_ok]
      rw [Eval.exec_bind, Eval.exec_check, ok_bind]
      cases w.advance ((me.span.map (·.stop)).getD w.start) <;> rfl

/-- **One step keeps consumers blind to their parent's builder.** -/
theorem consumeBy_blind (hrun : ∀ g w, Blind (run g w)) (g : Grammar) (w : Window) :
    Blind (consumeBy run env g w) := by
  cases g with
  | exact token factory => exact .of_exec fun parent _ => consumeExact_exec token factory w parent
  | charRun min max cls factory =>
    exact .of_exec fun parent _ => consumeCharRun_exec min max cls factory w parent
  | endOfInput =>
    exact .of_exec (r := .ok (endReply w)) fun parent _ => consumeEnd_exec w parent
  | skip body =>
    refine .after (run body w .empty) fun o => ?_
    rcases o with ⟨e | rest, b⟩
    · exact .failWith e
    · exact .succeed rest
  | require body =>
    refine (hrun body w).andThen fun reply => ?_
    rcases reply with e | ⟨rest, nodes⟩
    · exact .failWith e.escalate
    · exact .of_exec (r := .ok (.ok (rest, nodes))) fun _ _ => rfl
  | group name body =>
    refine (hrun body w).andThen fun reply => ?_
    rcases reply with e | ⟨rest, nodes⟩
    · exact .failWith (e.withContext name)
    · exact .of_exec (r := .ok (.ok (rest, nodes))) fun _ _ => rfl
  | replace translator body =>
    refine .after (run body w .empty) fun o => ?_
    rcases o with ⟨e | rest, b⟩
    · exact .failWith e
    · exact .of_exec fun parent _ =>
        consumeReplaced_exec translator w rest b.children.toList parent
  | reference name =>
    cases ht : env.bindings.target? name with
    | none =>
      have hfails : consumeBy run env (.reference name) w =
          failWith (.inconsistent "reference consumed before its target was set" w.start) := by
        funext parent
        rw [consumeBy, ht]
      rw [hfails]
      exact .failWith _
    | some target =>
      have hasks : consumeBy run env (.reference name) w = run target w := by
        funext parent
        rw [consumeBy, ht]
      rw [hasks]
      exact hrun target w
  | memoized id production =>
    show Blind fun parent => if env.caching then consumeCached run id production w parent
      else consumePlain run production w parent
    cases env.caching with
    | true => exact consumeCached_blind id production w
    | false => exact consumePlain_blind production w
  | counted name body =>
    exact .after (modify fun s => { s with counts := s.counts.increment name })
      fun _ => hrun body w
  | windowed size body =>
    refine .after (Eval.check (w.narrow w.start (w.start + min size w.length))) fun inner => ?_
    refine (hrun body inner).andThen fun reply => ?_
    rcases reply with e | ⟨rest, nodes⟩
    · exact .failWith e
    · refine .after (Eval.check (w.advance rest.start)) fun rest' => ?_
      exact .of_exec (r := .ok (.ok (rest', nodes))) fun _ _ => rfl
  | once flag first later =>
    refine .after (get : Eval Session) fun s => ?_
    cases hspent : s.spent.contains flag with
    | true =>
      simp only [if_true]
      exact hrun later w
    | false =>
      simp only [Bool.false_eq_true, if_false]
      exact .after (modify fun s => { s with spent := flag :: s.spent }) fun _ => hrun first w
  | fail error => exact .failWith error

theorem step_blind (hrun : ∀ g w, Blind (run g w)) (g : Grammar) (w : Window) :
    Blind (step run env g w) := by
  refine .after (Eval.emit .started) fun _ => ?_
  refine (consumeBy_blind hrun g w).andThen fun reply => ?_
  -- The end that is written into the log tells nothing of the builder.
  simp only [Reply.result_outcome]
  refine .after (Eval.emit (g.ending w (reply.map Prod.fst))) fun _ => ?_
  exact .of_exec (r := .ok reply) fun _ _ => rfl

/-- **However much fuel there is, consuming is blind to the parent's builder.** -/
theorem consume_blind (env : Environment) (fuel : Nat) :
    ∀ (g : Grammar) (w : Window), Blind (consume env fuel g w) := by
  induction fuel with
  | zero =>
    intro g w
    exact .of_exec (r := .error .outOfFuel) fun _ _ => rfl
  | succ fuel ih => exact step_blind ih

end Grammar

/-- **Consumers only append, and failures leave no trace.**  From a session, a grammar comes to one
session and one reply, whatever builder it is handed.  If the reply is a match, the children of the
builder are those it had and the nodes made behind them, and the rest of the builder is as it was.
If it is an error, recoverable or not, found in the table or worked out, the builder is as it
was. -/
theorem consume_appends (env : Environment) (fuel : Nat) (g : Grammar) (w : Window) (s : Session) :
    ∃ (r : Except Halt Reply) (s' : Session), ∀ parent : NodeBuilder,
      ((g.consume env fuel w parent).exec s).2 = s' ∧
        match r with
        | .error halt => ((g.consume env fuel w parent).exec s).1 = .error halt
        | .ok (.error e) => ((g.consume env fuel w parent).exec s).1 = .ok ⟨.error e, parent⟩
        | .ok (.ok (rest, nodes)) =>
          ∃ after : NodeBuilder,
            ((g.consume env fuel w parent).exec s).1 = .ok ⟨.ok rest, after⟩ ∧
              after.children.toList = parent.children.toList ++ nodes ∧
              after.span = parent.span ∧ after.value = parent.value ∧
              after.attachment = parent.attachment ∧ after.factory = parent.factory := by
  obtain ⟨r, s', hr⟩ := Grammar.consume_blind env fuel g w s
  refine ⟨r, s', fun parent => ?_⟩
  rw [hr parent]
  refine ⟨rfl, ?_⟩
  rcases r with halt | e | ⟨rest, nodes⟩
  · rfl
  · rfl
  · have hchildren : (parent.extend nodes).children.toList = parent.children.toList ++ nodes :=
      parent.toList_children_extend nodes
    exact ⟨parent.extend nodes, rfl, hchildren, rfl, rfl, rfl, rfl⟩

end Packrat
