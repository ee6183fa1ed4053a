import Packrat.Node.Basic
import Packrat.ParseEvent

/-! # What the memo table keeps

Whoever shares a memo table asks it, hands it results and hands it failures.  A call changes at most
the entry of its own key, and only in two ways (`MemoCall.entries_next`): it stores an outcome where
there was none, or it puts a failure in the place of a failure.

So a result that has been stored is found by all later calls, whatever happens in between, and all
that disagrees with it is refused.  A failure is kept against results in the same way, but not
against failures: a later failure is taken for the earlier one without a comparison, also if it is
another one (`stored_outcomes_kept`).
-/
namespace Packrat

/-- A call on a memo table. -/
inductive MemoCall where
  /-- What is stored for `key` is asked for. -/
  | ask (key : MemoKey)
  /-- `result` is to be stored for `key`. -/
  | remember (key : MemoKey) (result : Node)
  /-- `error` is to be stored for `key`. -/
  | rememberFailure (key : MemoKey) (error : ParseError)

/-- Whether two outcomes are equal, as far as the table can tell. -/
def MemoEntry.Agrees : MemoEntry Node → MemoEntry Node → Prop
  | .matched me, .matched other => me.same other = true
  | .failed e, .failed other => e = other
  | _, _ => False

namespace MemoCall

/-- The key that a call is about. -/
def key : MemoCall → MemoKey
  | ask key => key
  | remember key _ => key
  | rememberFailure key _ => key

/-- The outcome that a call hands over, if it does. -/
def outcome? : MemoCall → Option (MemoEntry Node)
  | ask _ => none
  | remember _ result => some (.matched result)
  | rememberFailure _ error => some (.failed error)

/-- The failure that a call hands over for `key`, if it does. -/
def failureFor? (key : MemoKey) : MemoCall → Option ParseError
  | rememberFailure other error => if other = key then some error else none
  | _ => none

/-- What a call answers. -/
def answer (t : MemoTable Node) : MemoCall → Except ParseError (Option Node)
  | ask key => (t.ask key).1
  | remember key result => (t.keep Node.same key result).1.map some
  | rememberFailure key error => (t.keepFailure key error).1.map fun _ => none

/-- The table after a call. -/
def next (t : MemoTable Node) : MemoCall → MemoTable Node
  | ask key => (t.ask key).2.2
  | remember key result => (t.keep Node.same key result).2.2
  | rememberFailure key error => (t.keepFailure key error).2.2

/-- The call hands over an outcome that differs from the one stored for its key. -/
def Disagrees (t : MemoTable Node) (call : MemoCall) : Prop :=
  ∃ stored outcome, t.entries[call.key]? = some stored ∧ call.outcome? = some outcome ∧
    ¬ stored.Agrees outcome

/-- The call is answered with a contradiction, and the table stays as it is. -/
def Refused (t : MemoTable Node) (call : MemoCall) : Prop :=
  call.answer t = .error call.key.contradiction ∧ call.next t = t

/-- The call hands over a failure for a key that has one already. -/
def FailsAgain (t : MemoTable Node) (call : MemoCall) : Prop :=
  ∃ old error, t.entries[call.key]? = some (.failed old) ∧ call.outcome? = some (.failed error)

end MemoCall

/-- The table after a history of calls. -/
def MemoTable.after (t : MemoTable Node) (calls : List MemoCall) : MemoTable Node :=
  calls.foldl MemoCall.next t

@[simp] theorem MemoTable.after_nil (t : MemoTable Node) : t.after [] = t := rfl

@[simp] theorem MemoTable.after_cons (t : MemoTable Node) (call : MemoCall)
    (calls : List MemoCall) : t.after (call :: calls) = (call.next t).after calls := rfl

/-! ## One call -/

namespace MemoCall

variable {t : MemoTable Node} {call : MemoCall} {key : MemoKey}

theorem failureFor?_of_ne (hkey : call.key ≠ key) : call.failureFor? key = none := by
  cases call with
  | rememberFailure other error => exact if_neg hkey
  | _ => rfl

theorem failureFor?_key_eq_some {error : ParseError} :
    call.failureFor? call.key = some error ↔ call.outcome? = some (.failed error) := by
  cases call with
  | ask key => simp [failureFor?, outcome?]
  | remember key result => simp [failureFor?, outcome?]
  | rememberFailure key other => simp [failureFor?, outcome?, MemoCall.key]

/-- **What a call does to the entries.**  It leaves them alone, or it stores the outcome that it
hands over: for a key without an entry, or a failure in the place of a failure. -/
theorem entries_next (t : MemoTable Node) (call : MemoCall) :
    ((call.next t).entries = t.entries ∧ ¬ call.FailsAgain t) ∨
      ∃ outcome, call.outcome? = some outcome ∧
        (call.next t).entries = t.entries.insert call.key outcome ∧
        (t.entries[call.key]? = none ∨ call.FailsAgain t) := by
  cases call with
  | ask key =>
    left
    refine ⟨?_, fun ⟨_, _, _, houtcome⟩ => nomatch houtcome⟩
    rcases hentry : t.entries[key]? with _ | ⟨me⟩ | ⟨e⟩
    · rw [next, MemoTable.ask_of_none hentry]
    · rw [next, MemoTable.ask_of_matched hentry]
    · rw [next, MemoTable.ask_of_failed hentry]
  | remember key result =>
    rcases hentry : t.entries[key]? with _ | entry
    · right
      rw [next, MemoTable.keep_of_none hentry]
      exact ⟨_, rfl, rfl, .inl hentry⟩
    · left
      refine ⟨?_, fun ⟨_, _, _, houtcome⟩ => nomatch houtcome⟩
      by_cases hsame : ∃ old, entry = .matched old ∧ old.same result = true
      · obtain ⟨old, rfl, hsame⟩ := hsame
        rw [next, MemoTable.keep_of_same hentry hsame]
      · have hne : ∀ old, entry = .matched old → old.same result = false := by
          intro old he
          exact Bool.eq_false_iff.mpr fun hs => hsame ⟨old, he, hs⟩
        rw [next, MemoTable.keep_of_contradiction hentry hne]
  | rememberFailure key error =>
    by_cases hmatched : ∃ me, t.entries[key]? = some (.matched me)
    · left
      obtain ⟨me, hentry⟩ := hmatched
      refine ⟨?_, fun ⟨old, _, hold, _⟩ => ?_⟩
      · rw [next, MemoTable.keepFailure_of_matched hentry]
      · cases hentry.symm.trans hold
    · right
      have hnot := not_exists.mp hmatched
      rw [next, MemoTable.keepFailure_of_not_matched hnot]
      refine ⟨_, rfl, rfl, ?_⟩
      rcases hentry : t.entries[key]? with _ | ⟨me⟩ | ⟨old⟩
      · exact .inl hentry
      · exact absurd hentry (hnot me)
      · exact .inr ⟨old, error, hentry, rfl⟩

/-- The outcome that a call hands over for a key without an entry is stored. -/
theorem getElem?_next_of_none {outcome : MemoEntry Node} (hnone : t.entries[call.key]? = none)
    (houtcome : call.outcome? = some outcome) :
    (call.next t).entries[call.key]? = some outcome := by
  cases call with
  | ask key => cases houtcome
  | remember key result =>
    cases houtcome
    have hnone' : t.entries[key]? = none := hnone
    rw [next, MemoTable.keep_of_none hnone']
    exact Std.HashMap.getElem?_insert_self
  | rememberFailure key error =>
    cases houtcome
    have hnot : ∀ me, t.entries[key]? ≠ some (.matched me) := by
      intro me hme
      cases hnone.symm.trans hme
    rw [next, MemoTable.keepFailure_of_not_matched hnot]
    exact Std.HashMap.getElem?_insert_self

/-- No call changes the entry of another key. -/
theorem getElem?_next_of_ne (hkey : call.key ≠ key) :
    (call.next t).entries[key]? = t.entries[key]? := by
  obtain ⟨h, -⟩ | ⟨outcome, -, h, -⟩ := entries_next t call
  · rw [h]
  · rw [h, Std.HashMap.getElem?_insert, if_neg (by simpa using hkey)]

/-- No call changes a result that is stored. -/
theorem getElem?_next_of_matched {me : Node} (hentry : t.entries[key]? = some (.matched me)) :
    (call.next t).entries[key]? = some (.matched me) := by
  by_cases hkey : call.key = key
  · subst hkey
    obtain ⟨h, -⟩ | ⟨outcome, -, -, hnone | ⟨old, error, hold, -⟩⟩ := entries_next t call
    · rw [h, hentry]
    · cases hentry.symm.trans hnone
    · cases hentry.symm.trans hold
  · rw [getElem?_next_of_ne hkey, hentry]

/-- A failure that is stored stays, or gives way to the failure that a call hands over. -/
theorem getElem?_next_of_failed {e : ParseError} (hentry : t.entries[key]? = some (.failed e)) :
    (call.next t).entries[key]? = some (.failed ((call.failureFor? key).getD e)) := by
  by_cases hkey : call.key = key
  · subst hkey
    obtain ⟨h, hnot⟩ | ⟨outcome, houtcome, h, hnone | ⟨old, error, -, herror⟩⟩ :=
      entries_next t call
    · have hfailure : call.failureFor? call.key = none := by
        refine Option.eq_none_iff_forall_ne_some.mpr fun error herror => hnot ?_
        exact ⟨e, error, hentry, failureFor?_key_eq_some.mp herror⟩
      rw [h, hentry, hfailure, Option.getD_none]
    · cases hentry.symm.trans hnone
    · obtain rfl := Option.some.inj (houtcome.symm.trans herror)
      rw [h, Std.HashMap.getElem?_insert_self, failureFor?_key_eq_some.mpr herror,
        Option.getD_some]
  · rw [getElem?_next_of_ne hkey, hentry, failureFor?_of_ne hkey, Option.getD_none]

/-- A call that disagrees with what is stored is refused, unless it hands over a failure for a
failure. -/
theorem refused_of_disagrees (hdisagrees : call.Disagrees t) (hnot : ¬ call.FailsAgain t) :
    call.Refused t := by
  obtain ⟨stored, outcome, hstored, houtcome, hne⟩ := hdisagrees
  cases call with
  | ask key => cases houtcome
  | remember key result =>
    cases houtcome
    have hdiffers : ∀ old, stored = .matched old → old.same result = false := by
      rintro old rfl
      exact Bool.eq_false_iff.mpr hne
    have hkeep : t.keep Node.same key result = (.error key.contradiction, none, t) :=
      MemoTable.keep_of_contradiction hstored hdiffers
    constructor
    · rw [answer, hkeep]
      rfl
    · rw [next, hkeep]
  | rememberFailure key error =>
    cases houtcome
    cases stored with
    | failed old => exact absurd ⟨old, error, hstored, rfl⟩ hnot
    | matched me =>
      have hkeep : t.keepFailure key error = (.error key.contradiction, none, t) :=
        MemoTable.keepFailure_of_matched hstored
      constructor
      · rw [answer, hkeep]
        rfl
      · rw [next, hkeep]

/-- A failure for a failure is never refused. -/
theorem not_refused_of_failsAgain (hfails : call.FailsAgain t) : ¬ call.Refused t := by
  obtain ⟨old, error, hold, houtcome⟩ := hfails
  rintro ⟨hanswer, -⟩
  cases call with
  | rememberFailure key other =>
    have hnot : ∀ me, t.entries[key]? ≠ some (.matched me) := by
      intro me hme
      cases hme.symm.trans hold
    rw [answer, MemoTable.keepFailure_of_not_matched hnot] at hanswer
    cases hanswer
  | _ => cases houtcome

end MemoCall

/-! ## A history of calls -/

namespace MemoTable

variable {t : MemoTable Node} {key : MemoKey}

theorem getElem?_after_of_matched {me : Node} (hentry : t.entries[key]? = some (.matched me))
    (calls : List MemoCall) : (t.after calls).entries[key]? = some (.matched me) := by
  induction calls generalizing t with
  | nil => exact hentry
  | cons call calls ih => exact ih (MemoCall.getElem?_next_of_matched hentry)

theorem getElem?_after_of_failed {e : ParseError} (hentry : t.entries[key]? = some (.failed e))
    (calls : List MemoCall) :
    (t.after calls).entries[key]? =
      some (.failed ((calls.filterMap (·.failureFor? key)).getLastD e)) := by
  induction calls generalizing t e with
  | nil => exact hentry
  | cons call calls ih =>
    rw [after_cons, ih (MemoCall.getElem?_next_of_failed hentry), List.filterMap_cons]
    cases call.failureFor? key with
    | none => rfl
    | some error => rw [Option.getD_some, List.getLastD_cons]

theorem ask_eq_of_getElem?_eq {t' : MemoTable Node} (h : t.entries[key]? = t'.entries[key]?) :
    (t.ask key).1 = (t'.ask key).1 := by
  rcases hentry : t'.entries[key]? with _ | ⟨me⟩ | ⟨e⟩
  · rw [ask_of_none hentry, ask_of_none (h.trans hentry)]
  · rw [ask_of_matched hentry, ask_of_matched (h.trans hentry)]
  · rw [ask_of_failed hentry, ask_of_failed (h.trans hentry)]

end MemoTable

/-- **What has been stored is kept, but for a failure that is handed over again.**  After any
history of calls, whoever made them, a result that is stored is still found.  Of a stored failure it
is found that there was one: the last one that was handed over since.  A call that disagrees with
what is stored for its key is answered with a contradiction and leaves the table alone, if and only
if it does not hand over a failure for a failure.  No call changes what is found for another key. -/
theorem stored_outcomes_kept (t : MemoTable Node) (calls : List MemoCall) :
    (∀ key me, t.entries[key]? = some (.matched me) →
        ((t.after calls).ask key).1 = .ok (some me)) ∧
      (∀ key e, t.entries[key]? = some (.failed e) →
        ((t.after calls).ask key).1 =
          .error ((calls.filterMap (·.failureFor? key)).getLastD e)) ∧
      (∀ call : MemoCall, call.Disagrees (t.after calls) →
        (call.Refused (t.after calls) ↔ ¬ call.FailsAgain (t.after calls))) ∧
      ∀ (call : MemoCall) key, call.key ≠ key →
        ((call.next (t.after calls)).ask key).1 = ((t.after calls).ask key).1 := by
  refine ⟨fun key me hentry => ?_, fun key e hentry => ?_, fun call hdisagrees => ?_,
    fun call key hkey => ?_⟩
  · rw [MemoTable.ask_of_matched (MemoTable.getElem?_after_of_matched hentry calls)]
  · rw [MemoTable.ask_of_failed (MemoTable.getElem?_after_of_failed hentry calls)]
  · exact ⟨fun hrefused hfails => MemoCall.not_refused_of_failsAgain hfails hrefused,
      MemoCall.refused_of_disagrees hdisagrees⟩
  · exact MemoTable.ask_eq_of_getElem?_eq (MemoCall.getElem?_next_of_ne hkey)

/-- A leaf and a failure that are stored for two keys.  After another leaf for the first key,
another failure for the second one and a question, the first leaf and the second failure are found;
the other leaf is refused again. -/
theorem stored_outcomes_kept_leaves :
    let key : MemoKey := ⟨0, 3, ⟨1⟩⟩
    let other : MemoKey := ⟨0, 3, ⟨2⟩⟩
    let first : ParseError := .mismatch "Token mismatch (x)" 0 none
    let second : ParseError := .mismatch "Token mismatch (y)" 0 none
    let t := MemoTable.empty.after [.remember key (.leaf "a"), .rememberFailure other first]
    let call : MemoCall := .remember key (.leaf "b")
    let t' := t.after [call, .rememberFailure other second, .ask key]
    t.entries[key]? = some (.matched (.leaf "a")) ∧ t.entries[other]? = some (.failed first) ∧
      (t'.ask key).1 = .ok (some (.leaf "a")) ∧ (t'.ask other).1 = .error second ∧
      call.Disagrees t' ∧ ¬ call.FailsAgain t' ∧ call.Refused t' ∧ call.key ≠ other ∧
      ((call.next t').ask other).1 = (t'.ask other).1 := by
  intro key other first second t call t'
  have hleaf : ((MemoCall.remember key (.leaf "a")).next .empty).entries[key]? =
      some (.matched (.leaf "a")) :=
    MemoCall.getElem?_next_of_none (MemoTable.getElem?_empty key) rfl
  have hother : ((MemoCall.remember key (.leaf "a")).next .empty).entries[other]? = none :=
    (MemoCall.getElem?_next_of_ne (by decide)).trans (MemoTable.getElem?_empty other)
  have hmatched : t.entries[key]? = some (.matched (.leaf "a")) :=
    MemoTable.getElem?_after_of_matched hleaf [.rememberFailure other first]
  have hfailed : t.entries[other]? = some (.failed first) := by
    show ((MemoCall.rememberFailure other first).next _).entries[other]? = _
    exact MemoCall.getElem?_next_of_none hother rfl
  obtain ⟨hfound, hreplaced, hrefused, hothers⟩ :=
    stored_outcomes_kept t [call, .rememberFailure other second, .ask key]
  have hdisagrees : call.Disagrees t' :=
    ⟨_, _, MemoTable.getElem?_after_of_matched hmatched _, rfl, Bool.eq_false_iff.mp rfl⟩
  have hnot : ¬ call.FailsAgain t' := fun ⟨_, _, _, houtcome⟩ => nomatch houtcome
  exact ⟨hmatched, hfailed, hfound key _ hmatched, hreplaced other _ hfailed, hdisagrees, hnot,
    (hrefused call hdisagrees).mpr hnot, by decide, hothers call other (by decide)⟩

/-- Two failures for one key that differ: the second one is not refused, and is found from then
on. -/
theorem second_failure_replaces_first :
    let key : MemoKey := ⟨0, 3, ⟨1⟩⟩
    let first : ParseError := .mismatch "Token mismatch (x)" 0 none
    let second : ParseError := .mismatch "Token mismatch (y)" 0 none
    let t := MemoTable.empty.after [.rememberFailure key first]
    let call : MemoCall := .rememberFailure key second
    (t.ask key).1 = .error first ∧ call.Disagrees t ∧ call.answer t = .ok none ∧
      ((call.next t).ask key).1 = .error second ∧ second ≠ first := by
  intro key first second t call
  have hfirst : t.entries[key]? = some (.failed first) := by
    show ((MemoCall.rememberFailure key first).next .empty).entries[key]? = _
    exact MemoCall.getElem?_next_of_none (MemoTable.getElem?_empty key) rfl
  have hne : second ≠ first := by decide
  have hnot : ∀ me, t.entries[key]? ≠ some (.matched me) := by
    intro me hme
    cases hfirst.symm.trans hme
  refine ⟨?_, ⟨.failed first, .failed second, hfirst, rfl, fun h => hne h.symm⟩, ?_, ?_, hne⟩
  · rw [MemoTable.ask_of_failed hfirst]
  · show (t.keepFailure key second).1.map _ = _
    rw [MemoTable.keepFailure_of_not_matched hnot]
    rfl
  · have hsecond : (call.next t).entries[key]? = some (.failed second) :=
      MemoCall.getElem?_next_of_failed hfirst
    rw [MemoTable.ask_of_failed hsecond]

end Packrat
