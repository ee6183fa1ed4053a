import Packrat.Proofs.Plan

/-! # Consumers follow their plans

A run of a consumer is a computation in a session; its plan knows neither the session nor the
builder.  `Follows run p s r s'` says what a run makes of a plan: it answers the questions of `p` by
`run` one after the other, and may write remarks into the log on the way.  Every production follows
its plan (`Production.produce_follows`), and so does every consumer that is not looked up in the
memo table (`Grammar.consumeBy_follows`), as long as `run` does with a builder what a reply says: it
appends nodes, or leaves the builder alone (`Appends`).

Facts about runs therefore need no case for each kind of consumer.  They are proved by induction on
`Follows`.
-/
namespace Packrat

/-- Whether an event only tells how a choice or a repetition went on. -/
def ParseEvent.isRemark : ParseEvent → Bool
  | branchFailed .. => true
  | noBranchMatched _ => true
  | repetitionStopped .. => true
  | _ => false

/-- `Follows run p s r s'`: with its questions answered by `run`, the plan `p` leads from the
session `s` to the result `r` and the session `s'`. -/
inductive Follows (run : Run) : {α : Type} → Plan α → Session → Except Halt α → Session → Prop
  | done {α : Type} {r : Except Halt α} {s : Session} : Follows run (.done r) s r s
  | remark {α : Type} {p : Plan α} {event : ParseEvent} {r : Except Halt α} {s s' : Session} :
      event.isRemark → Follows run p (s.note event) r s' → Follows run p s r s'
  | ask {α : Type} {g : Grammar} {w : Window} {parent : NodeBuilder} {next : Reply → Plan α}
      {reply : Reply} {r : Except Halt α} {s s₁ s' : Session} :
      (run g w parent).exec s = (.ok (reply.outcome parent), s₁) →
      Follows run (next reply) s₁ r s' → Follows run (.ask g w next) s r s'
  | halt {α : Type} {g : Grammar} {w : Window} {parent : NodeBuilder} {next : Reply → Plan α}
      {h : Halt} {s s₁ : Session} :
      (run g w parent).exec s = (.error h, s₁) → Follows run (.ask g w next) s (.error h) s₁

/-- Consuming by `run` appends nodes to the builder when it matches, and leaves it alone when it
fails. -/
def Appends (run : Run) : Prop :=
  ∀ g w parent s, ∃ r : Except Halt Reply,
    ((run g w parent).exec s).1 = r.map (Reply.outcome parent)

section Follow

variable {α β : Type} {run : Run}

theorem Follows.of_eq {r r' : Except Halt α} {s : Session} (h : r' = r) :
    Follows run (.done r) s r' s := h ▸ .done

theorem Follows.andThen {p : Plan α} {a : α} {f : α → Plan β} {r : Except Halt β}
    {s s₁ s' : Session} (hp : Follows run p s (.ok a) s₁) (hf : Follows run (f a) s₁ r s') :
    Follows run (p.andThen f) s r s' := by
  generalize hx : (Except.ok a : Except Halt α) = x at hp
  induction hp with
  | done => subst hx; exact hf
  | remark he _ ih => exact .remark he (ih hf hx)
  | ask hg _ ih => exact .ask hg (ih hf hx)
  | halt => cases hx

theorem Follows.andThen_halt {p : Plan α} {h : Halt} {s s' : Session}
    (hp : Follows run p s (.error h) s') (f : α → Plan β) :
    Follows run (p.andThen f) s (.error h) s' := by
  generalize hx : (Except.error h : Except Halt α) = x at hp
  induction hp with
  | done => subst hx; exact .done
  | remark he _ ih => exact .remark he (ih hx)
  | ask hg _ ih => exact .ask hg (ih hx)
  | halt hg => cases hx; exact .halt hg

/-- What a run does on a question, with what it left in the builder read as a reply. -/
theorem Appends.cases (hrun : Appends run) (g : Grammar) (w : Window) (parent : NodeBuilder)
    (s : Session) :
    (∃ (reply : Reply) (s₁ : Session), (run g w parent).exec s = (.ok (reply.outcome parent), s₁)) ∨
    ∃ h s₁, (run g w parent).exec s = (.error h, s₁) := by
  obtain ⟨r | reply, h⟩ := hrun g w parent s
  · exact .inr ⟨r, _, Prod.ext h rfl⟩
  · exact .inl ⟨reply, _, Prod.ext h rfl⟩

/-- A computation that starts with a question follows a plan that asks it, if it goes on as the plan
does for each reply.  Where the question halts, both halt. -/
theorem Appends.follows_ask (hrun : Appends run) {g : Grammar} {w : Window} {me : NodeBuilder}
    {f : Outcome → Eval β} {next : Reply → Plan α} {s s' : Session} {r : Except Halt β}
    {R : Except Halt β → Except Halt α → Prop} (hhalt : ∀ e, R (.error e) (.error e))
    (h : (run g w me >>= f).exec s = (r, s'))
    (hnext : ∀ reply s₁, (f (Reply.outcome me reply)).exec s₁ = (r, s') →
      ∃ r', Follows run (next reply) s₁ r' s' ∧ R r r') :
    ∃ r', Follows run (.ask g w next) s r' s' ∧ R r r' := by
  rw [Eval.exec_bind] at h
  obtain ⟨reply, s₁, hr⟩ | ⟨e, s₁, hr⟩ := hrun.cases g w me s
  · rw [hr] at h
    obtain ⟨r', hf, hR⟩ := hnext reply s₁ h
    exact ⟨r', .ask hr hf, hR⟩
  · rw [hr] at h
    obtain ⟨rfl, rfl⟩ := Prod.mk.inj h
    exact ⟨.error e, .halt hr, hhalt e⟩

end Follow

namespace Production

/-- What a memoizing consumer makes of the outcome of its production: the finished node. -/
def sealed (input : Window) : Except Halt Outcome → Except Halt (Except ParseError (Window × Node))
  | .error h => .error h
  | .ok ⟨.error e, _⟩ => .ok (.error e)
  | .ok ⟨.ok rest, me⟩ =>
    ((me.withSpan input.start rest.start).build.mapError .violation).map fun node =>
      .ok (rest, node)

variable {run : Run} {s : Session}

/-- A production that starts with a question. -/
theorem follows_ask (hrun : Appends run) {g : Grammar} {w input : Window} {me : NodeBuilder}
    {f : Outcome → Eval Outcome} {next : Reply → Plan (Except ParseError (Window × Node))}
    {s' : Session} {r : Except Halt Outcome} (h : (run g w me >>= f).exec s = (r, s'))
    (hnext : ∀ reply s₁, (f (Reply.outcome me reply)).exec s₁ = (r, s') →
      Follows run (next reply) s₁ (sealed input r) s') :
    Follows run (.ask g w next) s (sealed input r) s' := by
  obtain ⟨r', hf, rfl⟩ := hrun.follows_ask (R := fun r r' => r' = sealed input r) (fun _ => rfl) h
    fun reply s₁ hreply => ⟨_, hnext reply s₁ hreply, rfl⟩
  exact hf

theorem attachMatched_exec (factory : Option Factory) (input rest : Window) {me : NodeBuilder}
    (hme : me.attachment = none) :
    (attachMatched factory input rest me).exec s =
      (((attachmentFor factory input rest me.children.toList).map me.withAttachment).mapError
        .violation, s) := by
  cases factory with
  | none =>
    cases me
    cases hme
    rfl
  | some f =>
    simp only [attachMatched, attachmentFor, Eval.exec_bind, Eval.exec_check]
    cases input.slice input.start rest.start with
    | error v => rfl
    | ok text => cases h : f.create (some text) me.children.toList <;> simp [h]

theorem finish_follows (factory : Option Factory) (input rest : Window) (nodes : List Node)
    {r : Except Halt Outcome} {s' : Session}
    (h : (finish factory input rest (.extend .empty nodes)).exec s = (r, s')) :
    Follows run (planFinish factory input rest nodes) s (sealed input r) s' := by
  have hempty : (NodeBuilder.extend .empty nodes).children.toList = nodes := by
    simp [NodeBuilder.empty]
  rw [finish, Eval.exec_bind, attachMatched_exec factory input rest (by rfl), hempty] at h
  cases ha : attachmentFor factory input rest nodes with
  | error v =>
    rw [ha] at h
    obtain ⟨rfl, rfl⟩ := Prod.mk.inj h
    exact .of_eq (by rw [ha]; rfl)
  | ok a =>
    rw [ha] at h
    obtain ⟨rfl, rfl⟩ := Prod.mk.inj h
    refine .of_eq ?_
    have hbuild : (((NodeBuilder.extend .empty nodes).withAttachment a).withSpan input.start
        rest.start).build = .ok ⟨some ⟨input.start, rest.start⟩, none, a, nodes⟩ :=
      (NodeBuilder.build_of_factory_eq_none rfl).trans (by
        simp [NodeBuilder.withSpan, NodeBuilder.withAttachment, NodeBuilder.empty,
          NodeBuilder.extend])
    simp [ha, sealed, hbuild]

theorem produceParts_follows (hrun : Appends run) (factory : Option Factory) (input : Window) :
    ∀ (parts : List Grammar) (cursor : Window) (nodes : List Node) {s s' : Session}
      {r : Except Halt Outcome},
      (produceParts run factory input parts cursor (.extend .empty nodes)).exec s = (r, s') →
      Follows run (planParts factory input parts cursor nodes) s (sealed input r) s'
  | [], cursor, nodes, s, s', r, h => finish_follows factory input cursor nodes h
  | part :: parts, cursor, nodes, s, s', r, h => by
      rw [produceParts] at h
      refine follows_ask hrun h fun reply s₁ h => ?_
      rcases reply with e | ⟨rest, more⟩
      · obtain ⟨rfl, rfl⟩ := Prod.mk.inj h
        exact .done
      · exact produceParts_follows hrun factory input parts rest (nodes ++ more)
          (by simpa [Reply.outcome] using h)

theorem produceBranches_follows (hrun : Appends run) (factory : Option Factory) (input : Window) :
    ∀ (branches : List Grammar) {s s' : Session} {r : Except Halt Outcome},
      (produceBranches run factory input branches .empty).exec s = (r, s') →
      Follows run (planBranches factory input branches) s (sealed input r) s'
  | [], s, s', r, h => by
      obtain ⟨rfl, rfl⟩ := Prod.mk.inj h
      exact .remark rfl .done
  | branch :: branches, s, s', r, h => by
      rw [produceBranches] at h
      refine follows_ask hrun h fun reply s₁ h => ?_
      rcases reply with e | ⟨rest, nodes⟩
      · cases he : e.isRecoverable with
        | false =>
          simp only [Reply.outcome, he, Bool.false_eq_true, if_false] at h ⊢
          obtain ⟨rfl, rfl⟩ := Prod.mk.inj h
          exact .done
        | true =>
          -- The branch left the builder alone, so going back to the mark changes nothing, and the
          -- next branch starts with an empty builder again.
          simp only [Reply.outcome, he, if_true, Eval.exec_bind, Eval.exec_emit,
            NodeBuilder.truncate_size] at h ⊢
          exact .remark rfl (produceBranches_follows hrun factory input branches h)
      · exact finish_follows factory input rest nodes h

theorem finishRepetition_follows (min : Nat) (factory : Option Factory) (input cursor : Window)
    (count : Nat) (nodes : List Node) {s s' : Session} {r : Except Halt Outcome}
    (h : (finishRepetition min factory input cursor count (.extend .empty nodes)).exec s =
      (r, s')) :
    Follows run (planFinishRepetition min factory input cursor count nodes) s (sealed input r)
      s' := by
  rw [finishRepetition] at h
  rw [planFinishRepetition]
  split at h
  · rw [if_pos ‹_›]
    obtain ⟨rfl, rfl⟩ := Prod.mk.inj h
    exact .done
  · rw [if_neg ‹_›]
    exact finish_follows factory input cursor nodes h

theorem produceMatches_follows (hrun : Appends run) (min : Nat) (max : Option Nat) (body : Grammar)
    (factory : Option Factory) (input : Window) :
    ∀ (left count : Nat) (cursor : Window) (nodes : List Node) {s s' : Session}
      {r : Except Halt Outcome},
      (produceMatches run min max body factory input left count cursor
        (.extend .empty nodes)).exec s = (r, s') →
      Follows run (planMatches min max body factory input left count cursor nodes) s
        (sealed input r) s'
  | 0, count, cursor, nodes, s, s', r, h => by
      rw [produceMatches] at h
      rw [planMatches]
      split at h
      · rw [if_pos ‹_›]
        exact finishRepetition_follows min factory input cursor count nodes h
      · rw [if_neg ‹_›]
        obtain ⟨rfl, rfl⟩ := Prod.mk.inj h
        exact .done
  | left + 1, count, cursor, nodes, s, s', r, h => by
      rw [produceMatches] at h
      refine follows_ask hrun h fun reply s₁ h => ?_
      rcases reply with e | ⟨rest, more⟩
      · cases he : e.isRecoverable with
        | false =>
          simp only [Reply.outcome, he, Bool.false_eq_true, if_false] at h ⊢
          obtain ⟨rfl, rfl⟩ := Prod.mk.inj h
          exact .done
        | true =>
          simp only [Reply.outcome, he, if_true, Eval.exec_bind, Eval.exec_emit,
            NodeBuilder.truncate_size] at h ⊢
          exact .remark rfl (finishRepetition_follows min factory input cursor count nodes h)
      · simp only [Reply.outcome, Eval.exec_bind, Eval.exec_check] at h ⊢
        cases hc : addPosition count 1 with
        | error v =>
          rw [hc] at h
          obtain ⟨rfl, rfl⟩ := Prod.mk.inj h
          exact .done
        | ok count' =>
          simp only [hc, mapError_ok, NodeBuilder.extend_extend] at h
          simp only [Plan.check_ok, Plan.answer_andThen]
          split at h
          · rw [if_pos ‹_›]
            exact finishRepetition_follows min factory input rest (count'.max min) _ h
          · rw [if_neg ‹_›]
            exact produceMatches_follows hrun min max body factory input left count' rest _ h

theorem sealed_plain (input rest : Window) (b : NodeBuilder) (h : b.factory = none) :
    sealed input (.ok ⟨.ok rest, b⟩) =
      .ok (.ok
        (rest, ⟨some ⟨input.start, rest.start⟩, b.value, b.attachment, b.children.toList⟩)) := by
  have hb : (b.withSpan input.start rest.start).factory = none := h
  rw [sealed, NodeBuilder.build_of_factory_eq_none hb]
  rfl

theorem attachJoined_exec (factory : Option Factory) (text : String) (nodes : List Node)
    (me : NodeBuilder) (hme : me.attachment = none) :
    (attachJoined factory text nodes me).exec s =
      (((Factory.createWith factory text nodes).map me.withAttachment).mapError .violation, s) := by
  cases factory with
  | none =>
    cases me
    cases hme
    rfl
  | some f =>
    simp only [attachJoined, Factory.createWith, Eval.exec_bind, Eval.exec_check]
    cases f.create (some text) nodes <;> rfl

/-- **A production follows its plan.** -/
theorem produce_follows (hrun : Appends run) (production : Production) (input : Window)
    {r : Except Halt Outcome} {s' : Session}
    (h : (production.produce run input .empty).exec s = (r, s')) :
    Follows run (production.plan input) s (sealed input r) s' := by
  cases production with
  | sequence parts factory => exact produceParts_follows hrun factory input parts input [] h
  | choice branches factory => exact produceBranches_follows hrun factory input branches h
  | repetition min max body factory =>
    exact produceMatches_follows hrun min max body factory input _ 0 input [] h
  | lift body factory =>
    obtain ⟨reply, s₁, hr⟩ | ⟨e, s₁, hr⟩ := hrun.cases body input .empty s
    · obtain ⟨rfl, rfl⟩ := Prod.mk.inj (hr.symm.trans h)
      refine .ask hr ?_
      rcases reply with e | ⟨rest, nodes⟩
      · exact .done
      · refine .of_eq ?_
        rw [Reply.outcome, sealed_plain _ _ _ rfl, NodeBuilder.toList_children_extend]
        rfl
    · obtain ⟨rfl, rfl⟩ := Prod.mk.inj (hr.symm.trans h)
      exact .halt hr
  | join joint body factory =>
    rw [produce] at h
    refine follows_ask hrun h fun reply s₁ h => ?_
    rcases reply with e | ⟨rest, nodes⟩
    · obtain ⟨rfl, rfl⟩ := Prod.mk.inj h
      exact .done
    · have hempty : (NodeBuilder.extend .empty nodes).children.toList = nodes := by
        simp [NodeBuilder.empty]
      simp only [Reply.outcome, hempty, Eval.exec_bind] at h
      rw [attachJoined_exec factory _ nodes .empty rfl] at h
      simp only [planJoined]
      cases ha : Factory.createWith factory (Node.joinValues joint nodes) nodes with
      | error v =>
        rw [ha] at h
        obtain ⟨rfl, rfl⟩ := Prod.mk.inj h
        exact .done
      | ok a =>
        rw [ha] at h
        obtain ⟨rfl, rfl⟩ := Prod.mk.inj h
        exact .of_eq (sealed_plain _ _ _ rfl)
  | preserve body factory =>
    rw [produce] at h
    refine follows_ask hrun h fun reply s₁ h => ?_
    rcases reply with e | ⟨rest, nodes⟩
    · obtain ⟨rfl, rfl⟩ := Prod.mk.inj h
      exact .done
    · have hempty : (NodeBuilder.extend .empty nodes).children.toList = nodes := by
        simp [NodeBuilder.empty]
      simp only [Reply.outcome, Eval.exec_bind] at h
      rw [attachMatched_exec factory input rest rfl, hempty] at h
      simp only [planPreserved]
      cases ha : attachmentFor factory input rest nodes with
      | error v =>
        rw [ha] at h
        obtain ⟨rfl, rfl⟩ := Prod.mk.inj h
        exact .done
      | ok a =>
        rw [ha] at h
        obtain ⟨rfl, rfl⟩ := Prod.mk.inj h
        refine .of_eq ((sealed_plain _ _ _ rfl).trans ?_)
        rw [show ((NodeBuilder.extend .empty nodes).withAttachment a).children.toList = nodes from
          hempty]
        rfl

/-- Handing a node to a parent appends what the production hands over. -/
theorem apply_eq (production : Production) (parent : NodeBuilder) (me : Node) :
    production.apply parent me = (production.handed me).map parent.extend := by
  cases production with
  | lift body factory =>
    cases factory with
    | none => rfl
    | some f =>
      simp only [apply, handed]
      cases (grandchildren me).mapM (reattach f) <;> rfl
  | _ => rfl

end Production

namespace Grammar

variable {run : Run} {env : Environment} {s s' : Session}

/-- A consumer that starts with a question. -/
theorem follows_ask (hrun : Appends run) {g : Grammar} {w : Window} {me parent : NodeBuilder}
    {f : Outcome → Eval Outcome} {next : Reply → Plan Reply} {r : Except Halt Outcome}
    (h : (run g w me >>= f).exec s = (r, s'))
    (hnext : ∀ reply s₁, (f (Reply.outcome me reply)).exec s₁ = (r, s') →
      ∃ r', Follows run (next reply) s₁ r' s' ∧ r = r'.map (Reply.outcome parent)) :
    ∃ r', Follows run (.ask g w next) s r' s' ∧ r = r'.map (Reply.outcome parent) :=
  hrun.follows_ask (R := fun r r' => r = r'.map (Reply.outcome parent)) (fun _ => rfl) h hnext

/-- Whether the window alone decides what the consumer replies, as far as its parts do. -/
def hasPlan : Grammar → Bool
  | counted .. => false
  | once .. => false
  | _ => true

theorem leaf_exec (input : Window) (stop : Nat) (value : String) (factory : Option Factory)
    (parent : NodeBuilder) :
    (leaf input stop value factory parent).exec s =
      (((leafReply input stop value factory).mapError .violation).map (Reply.outcome parent),
        s) := by
  simp only [leaf, leafReply, Eval.exec_bind, Eval.exec_check]
  cases input.advance stop with
  | error v => rfl
  | ok rest =>
    cases factory with
    | none => rfl
    | some f =>
      simp only [Factory.createWith]
      cases f.create (some value) [] <;>
        simp [succeed, Reply.outcome, NodeBuilder.push_eq_extend]

theorem consumeExact_exec (token : String) (factory : Option Factory) (input : Window)
    (parent : NodeBuilder) :
    (consumeExact token factory input parent).exec s =
      (((exactReply token factory input).mapError .violation).map (Reply.outcome parent), s) := by
  rw [consumeExact, exactReply]
  split
  · rw [Eval.exec_bind, Eval.exec_check]
    cases addPosition input.start token.length with
    | error v => rfl
    | ok stop => exact leaf_exec input stop token factory parent
  · rfl

theorem consumeCharRun_exec (min : Nat) (max : Option Nat) (cls : CharClass)
    (factory : Option Factory) (input : Window) (parent : NodeBuilder) :
    (consumeCharRun min max cls factory input parent).exec s =
      (((charRunReply min max cls factory input).mapError .violation).map (Reply.outcome parent),
        s) := by
  rw [consumeCharRun, charRunReply]
  split
  · rfl
  · rw [Eval.exec_bind, Eval.exec_check]
    cases input.text (input.runLength cls.contains (max.getD input.length)) with
    | error v => rfl
    | ok text =>
      simp only [mapError_ok, ok_bind, Eval.exec_bind, Eval.exec_check]
      cases addPosition input.start (input.runLength cls.contains (max.getD input.length)) with
      | error v => rfl
      | ok stop => exact leaf_exec input stop text factory parent

theorem consumeEnd_exec (input : Window) (parent : NodeBuilder) :
    (consumeEnd input parent).exec s = (.ok ((endReply input).outcome parent), s) := by
  rw [consumeEnd, endReply]
  split <;> rfl

theorem consumeReplaced_exec (translator : Translator) (input rest : Window) (nodes : List Node)
    (parent : NodeBuilder) :
    (consumeReplaced translator input rest nodes parent).exec s =
      (((replacedReply translator input rest nodes).mapError .violation).map
        (Reply.outcome parent), s) := by
  match nodes with
  | [node] =>
    simp only [consumeReplaced, replacedReply, translated, Eval.exec_bind]
    cases node.value with
    | some value => rfl
    | none =>
      simp only [Eval.exec_check]
      cases input.slice input.start rest.start <;> rfl
  | [] => rfl
  | _ :: _ :: _ => rfl

/-- Handing a finished node to the parent. -/
theorem hand_exec (production : Production) (rest : Window) (parent : NodeBuilder) (me : Node) :
    (Eval.check (production.apply parent me) >>= succeed rest).exec s =
      ((((production.handed me).map fun nodes => .ok (rest, nodes)).mapError .violation).map
        (Reply.outcome parent), s) := by
  rw [Eval.exec_bind, Eval.exec_check, Production.apply_eq]
  cases production.handed me <;> rfl

/-- A memoizing consumer that works its result out each time follows its plan. -/
theorem consumePlain_follows (hrun : Appends run) (production : Production) (input : Window)
    (parent : NodeBuilder) {r : Except Halt Outcome}
    (h : (consumePlain run production input parent).exec s = (r, s')) :
    ∃ r', Follows run ((production.plan input).andThen production.planApplied) s r' s' ∧
      r = r'.map (Reply.outcome parent) := by
  rw [consumePlain, Eval.exec_bind] at h
  rcases ho : (production.produce run input .empty).exec s with ⟨e | ⟨e | rest, me⟩, s₁⟩
  · rw [ho] at h
    obtain ⟨rfl, rfl⟩ := Prod.mk.inj h
    exact ⟨_, (Production.produce_follows hrun production input ho).andThen_halt _, rfl⟩
  · rw [ho] at h
    obtain ⟨rfl, rfl⟩ := Prod.mk.inj h
    exact ⟨_, (Production.produce_follows hrun production input ho).andThen .done, rfl⟩
  · have hf := Production.produce_follows hrun production input ho
    rw [ho] at h
    dsimp only at h
    rw [Eval.exec_bind, Eval.exec_check] at h
    rw [Production.sealed] at hf
    cases hb : (me.withSpan input.start rest.start).build with
    | error v =>
      rw [hb] at h hf
      obtain ⟨rfl, rfl⟩ := Prod.mk.inj h
      exact ⟨_, hf.andThen_halt _, rfl⟩
    | ok node =>
      rw [hb] at h hf
      obtain ⟨rfl, rfl⟩ := Prod.mk.inj ((hand_exec production rest parent node).symm.trans h)
      exact ⟨_, hf.andThen .done, rfl⟩

/-- **A consumer that is not looked up follows its plan.** -/
theorem consumeBy_follows (hrun : Appends run) {g : Grammar} (hg : g.hasPlan)
    (hm : ∀ id production, g = memoized id production → env.caching = false) (input : Window)
    (parent : NodeBuilder) {r : Except Halt Outcome}
    (h : (consumeBy run env g input parent).exec s = (r, s')) :
    ∃ r', Follows run (g.plan env.bindings input) s r' s' ∧ r = r'.map (Reply.outcome parent) := by
  cases g with
  | exact token factory =>
    obtain ⟨rfl, rfl⟩ := Prod.mk.inj ((consumeExact_exec token factory input parent).symm.trans h)
    exact ⟨_, .done, rfl⟩
  | charRun min max cls factory =>
    obtain ⟨rfl, rfl⟩ :=
      Prod.mk.inj ((consumeCharRun_exec min max cls factory input parent).symm.trans h)
    exact ⟨_, .done, rfl⟩
  | endOfInput =>
    obtain ⟨rfl, rfl⟩ := Prod.mk.inj ((consumeEnd_exec input parent).symm.trans h)
    exact ⟨_, .done, rfl⟩
  | skip body =>
    rw [consumeBy] at h
    refine follows_ask hrun h fun reply s₁ h => ?_
    obtain ⟨rfl, rfl⟩ := Prod.mk.inj h
    refine ⟨_, .done, ?_⟩
    rcases reply with e | ⟨rest, nodes⟩ <;> rfl
  | require body =>
    rw [consumeBy] at h
    refine follows_ask hrun h fun reply s₁ h => ?_
    obtain ⟨rfl, rfl⟩ := Prod.mk.inj h
    refine ⟨_, .done, ?_⟩
    rcases reply with e | ⟨rest, nodes⟩ <;> rfl
  | group name body =>
    rw [consumeBy] at h
    refine follows_ask hrun h fun reply s₁ h => ?_
    obtain ⟨rfl, rfl⟩ := Prod.mk.inj h
    refine ⟨_, .done, ?_⟩
    rcases reply with e | ⟨rest, nodes⟩ <;> rfl
  | replace translator body =>
    rw [consumeBy] at h
    refine follows_ask hrun h fun reply s₁ h => ?_
    rcases reply with e | ⟨rest, nodes⟩
    · obtain ⟨rfl, rfl⟩ := Prod.mk.inj h
      exact ⟨_, .done, rfl⟩
    · have hempty : (NodeBuilder.extend .empty nodes).children.toList = nodes := by
        simp [NodeBuilder.empty]
      simp only [Reply.outcome, hempty] at h
      obtain ⟨rfl, rfl⟩ :=
        Prod.mk.inj ((consumeReplaced_exec translator input rest nodes parent).symm.trans h)
      exact ⟨_, .done, rfl⟩
  | reference name =>
    rw [consumeBy] at h
    rw [plan]
    cases ht : env.bindings.target? name with
    | none =>
      rw [ht] at h
      obtain ⟨rfl, rfl⟩ := Prod.mk.inj h
      exact ⟨_, .done, rfl⟩
    | some target =>
      rw [ht] at h
      obtain ⟨reply, s₁, hr⟩ | ⟨e, s₁, hr⟩ := hrun.cases target input parent s
      · obtain ⟨rfl, rfl⟩ := Prod.mk.inj (hr.symm.trans h)
        exact ⟨_, .ask hr .done, rfl⟩
      · obtain ⟨rfl, rfl⟩ := Prod.mk.inj (hr.symm.trans h)
        exact ⟨_, .halt hr, rfl⟩
  | memoized id production =>
    rw [consumeBy, hm id production rfl] at h
    exact consumePlain_follows hrun production input parent h
  | windowed size body =>
    rw [consumeBy, Eval.exec_bind, Eval.exec_check] at h
    rw [plan]
    cases hn : input.narrow input.start (input.start + min size input.length) with
    | error v =>
      rw [hn] at h
      obtain ⟨rfl, rfl⟩ := Prod.mk.inj h
      exact ⟨_, .done, rfl⟩
    | ok inner =>
      rw [hn] at h
      refine follows_ask hrun h fun reply s₁ h => ?_
      rcases reply with e | ⟨rest, nodes⟩
      · obtain ⟨rfl, rfl⟩ := Prod.mk.inj h
        exact ⟨_, .done, rfl⟩
      · dsimp only [Reply.outcome] at h
        rw [Eval.exec_bind, Eval.exec_check] at h
        cases ha : input.advance rest.start with
        | error v =>
          rw [ha] at h
          obtain ⟨rfl, rfl⟩ := Prod.mk.inj h
          exact ⟨_, .of_eq (by rw [ha]), rfl⟩
        | ok rest' =>
          rw [ha] at h
          obtain ⟨rfl, rfl⟩ := Prod.mk.inj h
          exact ⟨_, .of_eq (by rw [ha]), rfl⟩
  | fail error =>
    obtain ⟨rfl, rfl⟩ := Prod.mk.inj h
    exact ⟨_, .done, rfl⟩
  | counted name body => cases hg
  | once flag first later => cases hg

end Grammar

end Packrat
