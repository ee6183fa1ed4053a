import Packrat.Proofs.Plan

/-! # Errors that end everything

An error that is not recoverable ends the plan it comes up in: no further question is asked, and the
plan is done with an error that is not recoverable either (`Grammar.plan_commits`).  A choice does
not try its next branch and a repetition does not stop in front of it; frames only add to its
context.
-/
namespace Packrat

/-- Whether the result is an error that no one may recover from. -/
def Raises {β : Type} : Except ParseError β → Prop
  | .ok _ => False
  | .error e => e.isRecoverable = false

/-- Replies that no one may recover from end the plan at once, with a result that `raises` says to
be of that kind. -/
def Plan.Commits {α : Type} (raises : α → Prop) : Plan α → Prop
  | .done _ => True
  | .ask _ _ next =>
    (∀ reply, Raises reply → ∃ result, raises result ∧ next reply = .answer result) ∧
      ∀ reply, (next reply).Commits raises

namespace ParseError

variable {e : ParseError}

@[simp] theorem isRecoverable_withContext (frame : String) (e : ParseError) :
    (e.withContext frame).isRecoverable = e.isRecoverable := by
  cases e <;> rfl

theorem context_withContext (frame : String) (h : e.isRecoverable = true) :
    (e.withContext frame).context = chain frame e.context := by
  cases e <;> first | rfl | cases h

@[simp] theorem isRecoverable_inSequence (e : ParseError) :
    e.inSequence.isRecoverable = e.isRecoverable := by
  rw [inSequence]
  split
  · exact isRecoverable_withContext _ _
  · rfl

theorem inSequence_of_not_isRecoverable (he : e.isRecoverable = false) :
    e.inSequence = e := by
  rw [inSequence, he]
  rfl

@[simp] theorem isRecoverable_escalate (e : ParseError) : e.escalate.isRecoverable = false := by
  rw [escalate]
  split
  · rfl
  · exact Bool.eq_false_iff.mpr ‹_›

end ParseError

section Committing

variable {α β : Type}

@[simp] theorem not_raises_ok {a : β} : ¬ Raises (.ok a) := nofun

@[simp] theorem raises_error {e : ParseError} :
    Raises (.error e : Except ParseError β) ↔ e.isRecoverable = false := .rfl

/-- To commit, a plan needs to say what it does with an error that came from its question. -/
theorem Plan.commits_ask {g : Grammar} {w : Window} {next : Reply → Plan (Except ParseError β)}
    (herror : ∀ e : ParseError, e.isRecoverable = false →
      ∃ e', e'.isRecoverable = false ∧ next (.error e) = .answer (.error e'))
    (hnext : ∀ reply, (next reply).Commits Raises) : (Plan.ask g w next).Commits Raises := by
  refine ⟨?_, hnext⟩
  rintro (e | reply) hr
  · obtain ⟨e', he', hn⟩ := herror e hr
    exact ⟨.error e', he', hn⟩
  · cases hr

theorem Plan.Commits.andThen {p : Plan (Except ParseError α)}
    {f : Except ParseError α → Plan (Except ParseError β)} (hp : p.Commits Raises)
    (hraises : ∀ r, Raises r → ∃ result, Raises result ∧ f r = .answer result)
    (hf : ∀ r, (f r).Commits Raises) : (p.andThen f).Commits Raises := by
  induction p with
  | done r =>
    rcases r with e | a
    · trivial
    · exact hf a
  | ask g w next ih =>
    refine ⟨fun reply hreply => ?_, fun reply => ih reply (hp.2 reply)⟩
    obtain ⟨result, hresult, hn⟩ := hp.1 reply hreply
    obtain ⟨result', hresult', hf'⟩ := hraises result hresult
    refine ⟨result', hresult', ?_⟩
    show (next reply).andThen f = _
    rw [hn, Plan.answer_andThen, hf']

/-- Going on with what a check gives. -/
theorem Plan.commits_check_andThen {x : Except Violation α} {f : α → Plan (Except ParseError β)}
    (hf : ∀ a, (f a).Commits Raises) : ((Plan.check x).andThen f).Commits Raises := by
  cases x with
  | error v => trivial
  | ok a => exact hf a

end Committing

namespace Production

variable {factory : Option Factory} {input : Window}

theorem planParts_commits : ∀ {parts : List Grammar} {cursor : Window} {nodes : List Node},
    (planParts factory input parts cursor nodes).Commits Raises
  | [], _, _ => trivial
  | _ :: _, _, _ => by
    refine Plan.commits_ask (fun e he => ⟨e.inSequence, by simpa using he, rfl⟩) fun reply => ?_
    rcases reply with e | ⟨rest, more⟩
    · trivial
    · exact planParts_commits

theorem planBranches_commits : ∀ {branches : List Grammar},
    (planBranches factory input branches).Commits Raises
  | [] => trivial
  | _ :: _ => by
    refine Plan.commits_ask (fun e he => ⟨e, he, by simp [he]⟩) fun reply => ?_
    rcases reply with e | ⟨rest, nodes⟩
    · dsimp only
      split
      · exact planBranches_commits
      · trivial
    · trivial

theorem planFinishRepetition_commits {min count : Nat} {cursor : Window} {nodes : List Node} :
    (planFinishRepetition min factory input cursor count nodes).Commits Raises := by
  rw [planFinishRepetition]
  split <;> trivial

theorem planMatches_commits {min : Nat} {max : Option Nat} {body : Grammar} :
    ∀ {left count : Nat} {cursor : Window} {nodes : List Node},
    (planMatches min max body factory input left count cursor nodes).Commits Raises
  | 0, _, _, _ => by
    rw [planMatches]
    split
    · exact planFinishRepetition_commits
    · trivial
  | left + 1, _, _, _ => by
    refine Plan.commits_ask (fun e he => ⟨e, he, by simp [he]⟩) fun reply => ?_
    rcases reply with e | ⟨rest, more⟩
    · dsimp only
      split
      · exact planFinishRepetition_commits
      · trivial
    · refine Plan.commits_check_andThen fun count' => ?_
      split
      · exact planFinishRepetition_commits
      · exact planMatches_commits

theorem plan_commits (production : Production) (input : Window) :
    (production.plan input).Commits Raises := by
  cases production with
  | sequence parts factory => exact planParts_commits
  | choice branches factory => exact planBranches_commits
  | repetition min max body factory => exact planMatches_commits
  | lift body factory =>
    refine Plan.commits_ask (fun e he => ⟨e, he, rfl⟩) fun reply => ?_
    rcases reply with e | ⟨rest, nodes⟩ <;> trivial
  | join joint body factory =>
    refine Plan.commits_ask (fun e he => ⟨e, he, rfl⟩) fun reply => ?_
    rcases reply with e | ⟨rest, nodes⟩ <;> trivial
  | preserve body factory =>
    refine Plan.commits_ask (fun e he => ⟨e, he, rfl⟩) fun reply => ?_
    rcases reply with e | ⟨rest, nodes⟩ <;> trivial

end Production

/-- **No combinator recovers from an error that is not recoverable.** -/
theorem Grammar.plan_commits (bindings : Bindings) (g : Grammar) (input : Window) :
    (g.plan bindings input).Commits Raises := by
  cases g with
  | skip body => exact Plan.commits_ask (fun e he => ⟨e, he, rfl⟩) fun _ => trivial
  | require body =>
    exact Plan.commits_ask (fun e _ => ⟨e.escalate, by simp, rfl⟩) fun _ => trivial
  | group name body =>
    exact Plan.commits_ask (fun e he => ⟨e.withContext name, by simpa using he, rfl⟩)
      fun _ => trivial
  | replace translator body =>
    refine Plan.commits_ask (fun e he => ⟨e, he, rfl⟩) fun reply => ?_
    rcases reply with e | ⟨rest, nodes⟩ <;> trivial
  | reference name =>
    rw [plan]
    split
    · exact Plan.commits_ask (fun e he => ⟨e, he, rfl⟩) fun _ => trivial
    · trivial
  | memoized id production =>
    refine (production.plan_commits input).andThen ?_ ?_
    · rintro (e | ⟨rest, me⟩) hr
      · exact ⟨.error e, hr, rfl⟩
      · cases hr
    · rintro (e | ⟨rest, me⟩) <;> trivial
  | windowed size body =>
    refine Plan.commits_check_andThen fun inner => ?_
    refine Plan.commits_ask (fun e he => ⟨e, he, rfl⟩) fun reply => ?_
    rcases reply with e | ⟨rest, nodes⟩ <;> trivial
  | _ => trivial

end Packrat
