import Mathlib.Data.Finset.Card
import Packrat.Proofs.FirstMatch

/-! # Each matcher is evaluated once for a path

The answer of a matcher is remembered only after it has been evaluated, and evaluating it asks for
other matchers, above and below the path and at the path itself.  What rules out that it comes back
to its own key is the size of matchers: whatever is evaluated on the way is smaller
(`Matcher.evaluate_adds`), and equal matchers are of one size (`Matcher.size_eq_of_same`).  So the
key is still unknown when its answer is stored, whatever the tests answered meanwhile, and no two
evaluations belong to equal keys.

`MatchSession.Grows` says what matching adds to the log, the table of answers and the calls of
tests; `MatchSession.EvaluatesOnce` is read off it: the table has one entry for each evaluation, and
a test is called once for each different path at which it is asked for.  Nothing is required of
tests but what their type says: they see the part they are given and cannot ask for matches
themselves.
-/
namespace Packrat

/-! ## What the log tells -/

namespace MatchEvent

/-- The key whose evaluation begins. -/
def begunKey? : MatchEvent → Option MatchKey
  | began key => some key
  | _ => none

/-- The key that is asked for, whether its answer is remembered or has to be found. -/
def askedKey? : MatchEvent → Option MatchKey
  | began key => some key
  | memoHit key _ => some key
  | _ => none

/-- The evaluations that are underway after an event, the innermost first. -/
def underway (running : List MatchKey) : MatchEvent → List MatchKey
  | began key => key :: running
  | answered key _ => running.eraseP (· == key)
  | _ => running

end MatchEvent

/-- The keys whose evaluation began, in order. -/
def evaluations (log : List MatchEvent) : List MatchKey := log.filterMap MatchEvent.begunKey?

/-- The keys that were asked for, in order. -/
def questions (log : List MatchEvent) : List MatchKey := log.filterMap MatchEvent.askedKey?

/-- The evaluations that have begun in a log and not ended, the innermost first. -/
def underway (log : List MatchEvent) : List MatchKey := log.foldl MatchEvent.underway []

section Logs

variable {log log' : List MatchEvent}

theorem evaluations_append : evaluations (log ++ log') = evaluations log ++ evaluations log' :=
  List.filterMap_append

theorem questions_append : questions (log ++ log') = questions log ++ questions log' :=
  List.filterMap_append

/-- What is evaluated was asked for. -/
theorem evaluations_subset_questions : evaluations log ⊆ questions log := by
  intro key hkey
  obtain ⟨event, hevent, hbegun⟩ := List.mem_filterMap.mp hkey
  refine List.mem_filterMap.mpr ⟨event, hevent, ?_⟩
  cases event <;> first | exact hbegun | cases hbegun

/-- What is underway has begun. -/
theorem underway_subset_evaluations : underway log ⊆ evaluations log := by
  -- By induction on the log from its end, where the last event changes both.
  induction log using List.reverseRecOn with
  | nil => exact List.Subset.refl _
  | append_singleton log event ih =>
    rw [underway, List.foldl_append, evaluations_append]
    intro key hkey
    rw [List.mem_append]
    cases event with
    | began begun =>
      rcases List.mem_cons.mp hkey with rfl | hkey
      · exact .inr (.head _)
      · exact .inl (ih hkey)
    | answered _ _ => exact .inl (ih (List.mem_of_mem_eraseP hkey))
    | _ => exact .inl (ih hkey)

end Logs

/-! ## The size of a matcher -/

namespace Matcher

mutual

/-- The number of matchers that a matcher is made of, itself included. -/
def size : Matcher → Nat
  | eachChild m => m.size + 1
  | parent m => m.size + 1
  | children ms => sizeAll ms + 1
  | all ms => sizeAll ms + 1
  | any ms => sizeAll ms + 1
  | _ => 1

/-- The number of matchers that the matchers of a list are made of. -/
def sizeAll : List Matcher → Nat
  | [] => 0
  | m :: ms => m.size + sizeAll ms

end

mutual

/-- Equal matchers are of one size. -/
theorem size_eq_of_same : (a b : Matcher) → a.same b = true → a.size = b.size
  | a, b, h => by
    match a, b, agrees_of_same h with
    | _, _, .childCount _ => rfl
    | eachChild m, eachChild m', .eachChild hm => rw [size, size, size_eq_of_same m m' hm]
    | parent m, parent m', .parent hm => rw [size, size, size_eq_of_same m m' hm]
    | attachment _, attachment _, .attachment _ => rw [size, size] <;> nofun
    | _, _, .value _ => rfl
    | testAttachment _, testAttachment _, .testAttachment _ => rw [size, size] <;> nofun
    | testValue _, testValue _, .testValue _ => rw [size, size] <;> nofun
    | children ms, children ms', .children hms => rw [size, size, sizeAll_eq_of_sameAll ms ms' hms]
    | all ms, all ms', .all hms => rw [size, size, sizeAll_eq_of_sameAll ms ms' hms]
    | any ms, any ms', .any hms => rw [size, size, sizeAll_eq_of_sameAll ms ms' hms]

theorem sizeAll_eq_of_sameAll : (as bs : List Matcher) → sameAll as bs = true →
    sizeAll as = sizeAll bs
  | [], [], _ => rfl
  | a :: as, b :: bs, h => by
    rw [sameAll_cons, Bool.and_eq_true] at h
    rw [sizeAll, sizeAll, size_eq_of_same a b h.1, sizeAll_eq_of_sameAll as bs h.2]

end

/-- The identity of the test that a matcher is. -/
def testId? : Matcher → Option Nat
  | testAttachment test => some test.id
  | testValue test => some test.id
  | _ => none

theorem testId?_eq_of_same {a b : Matcher} (h : a.same b = true) : a.testId? = b.testId? := by
  cases agrees_of_same h with
  | testAttachment hid | testValue hid => exact congrArg some hid
  | _ => rfl

end Matcher

/-! ## Different paths -/

namespace Path

/-- Equality of paths as an equivalence. -/
instance setoid : Setoid Path where
  r p q := p.same q = true
  iseqv := ⟨same_self, same_symm, same_trans⟩

instance (p q : Path) : Decidable (p ≈ q) := inferInstanceAs (Decidable (p.same q = true))

/-- The number of different paths in a list. -/
def countDifferent (paths : List Path) : Nat :=
  (paths.map (Quotient.mk setoid)).toFinset.card

/-- Paths of a list that are pairwise different, and among which there is one equal to each of the
list, are as many as the list has different ones. -/
theorem countDifferent_eq_length {paths chosen : List Path} (hsubset : chosen ⊆ paths)
    (hcovers : ∀ p ∈ paths, ∃ q ∈ chosen, q.same p = true)
    (hdiffer : chosen.Pairwise fun p q => p.same q = false) :
    countDifferent paths = chosen.length := by
  have hclasses : (paths.map (Quotient.mk setoid)).toFinset =
      (chosen.map (Quotient.mk setoid)).toFinset := by
    ext c
    simp only [List.mem_toFinset, List.mem_map]
    constructor
    · rintro ⟨p, hp, rfl⟩
      obtain ⟨q, hq, hsame⟩ := hcovers p hp
      exact ⟨q, hq, Quotient.sound hsame⟩
    · rintro ⟨q, hq, rfl⟩
      exact ⟨q, hsubset hq, rfl⟩
  have hnodup : (chosen.map (Quotient.mk setoid)).Nodup := by
    refine List.pairwise_map.mpr (hdiffer.imp fun {p q} hpq heq => ?_)
    have hsame : p.same q = true := Quotient.exact heq
    rw [hpq] at hsame
    cases hsame
  rw [countDifferent, hclasses, List.toFinset_card_of_nodup hnodup, List.length_map]

end Path

/-! ## What matching adds -/

namespace MatchKey

/-- Whether the key is for a test with the identity `id`. -/
def tests (id : Nat) (key : MatchKey) : Bool := key.matcher.testId? == some id

end MatchKey

namespace Matching

/-- A call of a test is counted for that test alone. -/
theorem nextCall_nextCall (id other : Nat) (calls : List (Nat × Nat)) :
    (nextCall id (nextCall other calls).2).1 =
      (nextCall id calls).1 + if other = id then 1 else 0 := by
  induction calls with
  | nil => by_cases h : other = id <;> simp [nextCall, h]
  | cons entry calls ih =>
    obtain ⟨listed, n⟩ := entry
    by_cases hother : listed = other
    · by_cases hid : listed = id <;> simp [nextCall, ← hother, hid]
    · by_cases hid : listed = id
      · obtain rfl := hid
        simp [nextCall, hother, Ne.symm hother]
      · simp [nextCall, hother, hid, ih]

end Matching

namespace MatchSession

/-- How often the test with the identity `id` was called. -/
def timesCalled (s : MatchSession) (id : Nat) : Nat := (Matching.nextCall id s.calls).1

/-- What matching has added to a session: `log` to its log, an entry for each evaluation that has
begun, and the calls of tests.  The matchers that were evaluated satisfy `P`; `own` is the test that
was called outside them. -/
structure Grows (P : Matcher → Prop) (own : Option Nat) (s s' : MatchSession)
    (log : List MatchEvent) : Prop where
  log_eq : s'.log.toList = s.log.toList ++ log
  concerned : ∀ key ∈ evaluations log, P key.matcher
  once : (evaluations log).Pairwise fun key other => (key == other) = false
  /-- Nothing is evaluated whose answer was remembered. -/
  not_mem : ∀ key ∈ evaluations log, key ∉ s.answers
  mem_iff : ∀ key, key ∈ s'.answers ↔
    key ∈ s.answers ∨ ∃ other ∈ evaluations log, (other == key) = true
  mem_of_asked : ∀ key ∈ questions log, key ∈ s'.answers
  size_eq : s'.answers.size = s.answers.size + (evaluations log).length
  calls_eq : ∀ id, s'.timesCalled id = s.timesCalled id +
    ((evaluations log).filter (·.tests id)).length + if own = some id then 1 else 0
  /-- What has begun has ended, whatever is underway around it. -/
  balanced : ∀ running, log.foldl MatchEvent.underway running = running

variable {P Q : Matcher → Prop} {own : Option Nat} {s s₁ s' : MatchSession}
  {log log' : List MatchEvent}

theorem Grows.mono (h : Grows P own s s' log) (hP : ∀ m, P m → Q m) : Grows Q own s s' log :=
  { h with concerned := fun key hk => hP _ (h.concerned key hk) }

/-- Events that are no part of matching add nothing. -/
theorem grows_noted (P : Matcher → Prop) (s : MatchSession) {events : List MatchEvent}
    (hevents : ∀ event ∈ events, event.askedKey? = none)
    (hunderway : ∀ running, events.foldl MatchEvent.underway running = running) :
    Grows P none s { s with log := s.log ++ events } events := by
  have hquestions : questions events = [] := List.filterMap_eq_nil_iff.mpr hevents
  have hevaluations : evaluations events = [] :=
    List.eq_nil_of_subset_nil (hquestions ▸ evaluations_subset_questions)
  refine ⟨by simp, ?_, ?_, ?_, ?_, ?_, ?_, ?_, hunderway⟩ <;>
    simp [hquestions, hevaluations, timesCalled]

theorem grows_nil (P : Matcher → Prop) (s : MatchSession) : Grows P none s s [] := by
  simpa using grows_noted P s (List.forall_mem_nil _) fun _ => rfl

/-- One after the other. -/
theorem Grows.trans (h : Grows P none s s₁ log) (h' : Grows P own s₁ s' log') :
    Grows P own s s' (log ++ log') where
  log_eq := by rw [h'.log_eq, h.log_eq, List.append_assoc]
  concerned := by
    rw [evaluations_append]
    exact fun key hk => (List.mem_append.mp hk).elim (h.concerned key) (h'.concerned key)
  once := by
    rw [evaluations_append]
    refine List.pairwise_append.mpr ⟨h.once, h'.once, fun key hk other hother => ?_⟩
    -- What the first one has evaluated is known to the second one.
    rw [Bool.eq_false_iff]
    exact fun hsame => h'.not_mem other hother ((h.mem_iff other).mpr (.inr ⟨key, hk, hsame⟩))
  not_mem := by
    rw [evaluations_append]
    intro key hk hmem
    rcases List.mem_append.mp hk with hk | hk
    · exact h.not_mem key hk hmem
    · exact h'.not_mem key hk ((h.mem_iff key).mpr (.inl hmem))
  mem_iff := by
    intro key
    rw [h'.mem_iff, h.mem_iff, evaluations_append]
    simp only [List.mem_append, or_and_right, exists_or, or_assoc]
  mem_of_asked := by
    rw [questions_append]
    intro key hk
    rcases List.mem_append.mp hk with hk | hk
    · exact (h'.mem_iff key).mpr (.inl (h.mem_of_asked key hk))
    · exact h'.mem_of_asked key hk
  size_eq := by rw [h'.size_eq, h.size_eq, evaluations_append, List.length_append, Nat.add_assoc]
  calls_eq := by
    intro id
    have hfirst := h.calls_eq id
    rw [h'.calls_eq, hfirst, evaluations_append, List.filter_append, List.length_append]
    simp only [reduceCtorEq, if_false]
    omega
  balanced := by
    intro running
    rw [List.foldl_append, h.balanced, h'.balanced]

/-- A remembered answer is used. -/
theorem grows_hit (P : Matcher → Prop) {s : MatchSession} {key : MatchKey} (hmem : key ∈ s.answers)
    (result : Bool) :
    Grows P none s { s with log := s.log.push (.memoHit key result) } [.memoHit key result] := by
  have hasked : questions [.memoHit key result] = [key] := rfl
  have hnone : evaluations [.memoHit key result] = [] := rfl
  constructor
  case log_eq => simp
  case mem_of_asked =>
    rw [hasked]
    rintro other (_ | ⟨_, ⟨⟩⟩)
    exact hmem
  case balanced => exact fun _ => rfl
  all_goals simp [hnone, timesCalled]

/-- The key of an evaluation is not remembered before its answer is: what was evaluated on the way
is smaller. -/
theorem Grows.not_mem_of_smaller {key : MatchKey} (hnone : key ∉ s.answers)
    (h : Grows (·.size < key.matcher.size) own { s with log := s.log.push (.began key) } s' log) :
    key ∉ s'.answers := by
  intro hmem
  rcases (h.mem_iff key).mp hmem with hmem | ⟨other, hother, hsame⟩
  · exact hnone hmem
  · have hsize := Matcher.size_eq_of_same _ _ (MatchKey.same_iff.mp hsame).2
    exact absurd (h.concerned other hother) (hsize ▸ Nat.lt_irrefl _)

/-- An evaluation around those it asks for. -/
theorem Grows.around {key : MatchKey} (result : Bool) (hnone : key ∉ s.answers)
    (h : Grows (·.size < key.matcher.size) key.matcher.testId?
      { s with log := s.log.push (.began key) } s₁ log) :
    Grows (·.size < key.matcher.size + 1) none s
      { s₁ with
        answers := s₁.answers.insert key result, log := s₁.log.push (.answered key result) }
      (.began key :: (log ++ [.answered key result])) := by
  have hfresh : key ∉ s₁.answers := h.not_mem_of_smaller hnone
  have hevaluations : evaluations (.began key :: (log ++ [.answered key result])) =
      key :: evaluations log := by
    simp [evaluations, List.filterMap_append, MatchEvent.begunKey?]
  have hquestions : questions (.began key :: (log ++ [.answered key result])) =
      key :: questions log := by
    simp [questions, List.filterMap_append, MatchEvent.askedKey?]
  constructor
  case log_eq => simp [h.log_eq]
  case concerned =>
    rw [hevaluations]
    rintro other (_ | ⟨_, hother⟩)
    · exact Nat.lt_succ_self _
    · exact Nat.lt_succ_of_lt (h.concerned other hother)
  case once =>
    rw [hevaluations]
    refine List.pairwise_cons.mpr ⟨fun other hother => ?_, h.once⟩
    refine Bool.eq_false_iff.mpr fun hsame => ?_
    exact hfresh ((h.mem_iff key).mpr (.inr ⟨other, hother, BEq.symm hsame⟩))
  case not_mem =>
    rw [hevaluations]
    rintro other (_ | ⟨_, hother⟩)
    · exact hnone
    · exact h.not_mem other hother
  case mem_iff =>
    intro other
    rw [Std.HashMap.mem_insert, h.mem_iff, hevaluations]
    simp only [List.exists_mem_cons_iff]
    exact or_left_comm
  case mem_of_asked =>
    rw [hquestions]
    rintro other (_ | ⟨_, hother⟩)
    · exact Std.HashMap.mem_insert_self
    · exact Std.HashMap.mem_insert.mpr (.inr (h.mem_of_asked other hother))
  case size_eq =>
    rw [Std.HashMap.size_insert, if_neg hfresh, h.size_eq, hevaluations, List.length_cons,
      Nat.add_assoc]
  case calls_eq =>
    intro id
    have hcalls : s₁.timesCalled id = s.timesCalled id + _ + _ := h.calls_eq id
    show s₁.timesCalled id = _
    rw [hcalls, hevaluations, List.filter_cons, MatchKey.tests, beq_eq_decide]
    by_cases hown : key.matcher.testId? = some id
    · simp [hown]
      omega
    · simp [hown]
  case balanced =>
    intro running
    rw [List.foldl_cons, List.foldl_append, h.balanced]
    simp [MatchEvent.underway]

end MatchSession

/-! ## What a computation adds -/

/-- The computation answers, and adds to the session evaluations of matchers that satisfy `P` and,
outside them, one call of the test `own` if that is one. -/
def Matching.Adds {α : Type} (P : Matcher → Prop) (own : Option Nat) (x : Matching α) : Prop :=
  ∀ s, ∃ a s' log, x.exec s = (.ok a, s') ∧ MatchSession.Grows P own s s' log

namespace Matching

open MatchSession

variable {α β : Type} {P Q : Matcher → Prop} {own : Option Nat}

theorem Adds.mono {x : Matching α} (h : Adds P own x) (hP : ∀ m, P m → Q m) : Adds Q own x := by
  intro s
  obtain ⟨a, s', log, hx, hgrows⟩ := h s
  exact ⟨a, s', log, hx, hgrows.mono hP⟩

theorem adds_pure (P : Matcher → Prop) (a : α) : Adds P none (pure a) :=
  fun s => ⟨a, s, [], rfl, grows_nil P s⟩

theorem Adds.bind {x : Matching α} {f : α → Matching β} (hx : Adds P none x)
    (hf : ∀ a, Adds P own (f a)) : Adds P own (x >>= f) := by
  intro s
  obtain ⟨a, s₁, log, hx, hgrows⟩ := hx s
  obtain ⟨b, s', log', hf, hgrows'⟩ := hf a s₁
  refine ⟨b, s', log ++ log', ?_, hgrows.trans hgrows'⟩
  rw [exec_bind, hx]
  exact hf

/-- Whatever is asked first decides how to go on. -/
theorem Adds.ite_bind {x y z : Matching Bool} (hx : Adds P none x) (hy : Adds P none y)
    (hz : Adds P none z) : Adds P none (do if ← x then y else z) := by
  refine hx.bind fun answer => ?_
  cases answer with
  | true => exact hy
  | false => exact hz

theorem adds_callTest (P : Matcher → Prop) (p : Predicate α) (part : Option α) :
    Adds P (some p.id) (callTest p part) := by
  intro s
  refine ⟨_, _, [], exec_callTest p part s, ?_⟩
  have hcalls : ∀ id, timesCalled
      { s with calls := (nextCall p.id s.calls).2, counts := s.counts.increment p.name } id =
        s.timesCalled id + if some p.id = some id then 1 else 0 := by
    intro id
    rw [timesCalled, nextCall_nextCall]
    simp only [Option.some.injEq]
    rfl
  refine ⟨by simp, ?_, ?_, ?_, ?_, ?_, ?_, hcalls, fun _ => rfl⟩ <;> simp [evaluations, questions]

theorem adds_allNodes {test : Node → Matching Bool} (h : ∀ node, Adds P none (test node)) :
    ∀ nodes, Adds P none (allNodes test nodes) := by
  intro nodes
  induction nodes with
  | nil => exact adds_pure P true
  | cons node nodes ih => exact (h node).ite_bind ih (adds_pure P false)

/-- Asking for an answer evaluates the matcher if no answer is remembered, around what it asks for
itself. -/
theorem adds_remembered {m : Matcher} {p : Path} {compute : Matching Bool}
    (hc : Adds (·.size < m.size) m.testId? compute) :
    Adds (·.size < m.size + 1) none (remembered ⟨p, m⟩ compute) := by
  intro s
  cases hentry : s.answers[(⟨p, m⟩ : MatchKey)]? with
  | some result =>
    have hmem : (⟨p, m⟩ : MatchKey) ∈ s.answers := by
      rw [Std.HashMap.mem_iff_isSome_getElem?, hentry]
      rfl
    exact ⟨result, _, _, exec_remembered_of_some hentry compute, grows_hit _ hmem result⟩
  | none =>
    have hnone : (⟨p, m⟩ : MatchKey) ∉ s.answers := by
      rw [Std.HashMap.mem_iff_isSome_getElem?, hentry]
      exact Bool.false_ne_true
    obtain ⟨result, s₁, log, hcompute, hgrows⟩ :=
      hc { s with log := s.log.push (.began ⟨p, m⟩) }
    -- Nothing was stored for the key meanwhile that the answer could disagree with.
    have hfresh : s₁.answers[(⟨p, m⟩ : MatchKey)]? = none :=
      Std.HashMap.getElem?_eq_none (hgrows.not_mem_of_smaller hnone)
    have hagree : s₁.answers[(⟨p, m⟩ : MatchKey)]?.any (· != result) = false := by
      rw [hfresh]
      rfl
    exact ⟨result, _, _, exec_remembered_of_none hentry hcompute hagree,
      hgrows.around result hnone⟩

end Matching

namespace Matcher

open Matching

mutual

/-- **What evaluating asks for is smaller.**  The matcher itself is asked for again at no path. -/
theorem evaluate_adds : (m : Matcher) → (p : Path) →
    Adds (·.size < m.size) m.testId? (m.evaluate p)
  | childCount _, _ => adds_pure _ _
  | eachChild m, p => by
    rw [evaluate, size]
    exact adds_allNodes (fun node => adds_remembered (evaluate_adds m (p.child node))) _
  | parent m, p => by
    rw [evaluate, size]
    cases p.parent? with
    | none => exact adds_pure _ false
    | some q => exact adds_remembered (evaluate_adds m q)
  | attachment _, _ => adds_pure _ _
  | value _, _ => adds_pure _ _
  | testAttachment test, p => adds_callTest _ test _
  | testValue test, p => adds_callTest _ test _
  | children ms, p => by
    rw [evaluate, size]
    split
    · exact evaluateEach_adds ms p _
    · exact adds_pure _ false
  | all ms, p => by
    rw [evaluate, size]
    exact evaluateAll_adds ms p
  | any ms, p => by
    rw [evaluate, size]
    exact evaluateAny_adds ms p

theorem evaluateEach_adds : (ms : List Matcher) → (p : Path) → (nodes : List Node) →
    Adds (·.size < sizeAll ms + 1) none (evaluateEach ms p nodes)
  | [], _, _ => adds_pure _ true
  | _ :: _, _, [] => adds_pure _ true
  | m :: ms, p, node :: nodes => by
    rw [evaluateEach, sizeAll]
    exact ((adds_remembered (evaluate_adds m (p.child node))).mono fun _ h => by omega).ite_bind
      ((evaluateEach_adds ms p nodes).mono fun _ h => by omega) (adds_pure _ false)

theorem evaluateAll_adds : (ms : List Matcher) → (p : Path) →
    Adds (·.size < sizeAll ms + 1) none (evaluateAll ms p)
  | [], _ => adds_pure _ true
  | m :: ms, p => by
    rw [evaluateAll, sizeAll]
    exact ((adds_remembered (evaluate_adds m p)).mono fun _ h => by omega).ite_bind
      ((evaluateAll_adds ms p).mono fun _ h => by omega) (adds_pure _ false)

theorem evaluateAny_adds : (ms : List Matcher) → (p : Path) →
    Adds (·.size < sizeAll ms + 1) none (evaluateAny ms p)
  | [], _ => adds_pure _ false
  | m :: ms, p => by
    rw [evaluateAny, sizeAll]
    exact ((adds_remembered (evaluate_adds m p)).mono fun _ h => by omega).ite_bind
      (adds_pure _ true) ((evaluateAny_adds ms p).mono fun _ h => by omega)

end

/-- A match, at any path, adds evaluations to the session. -/
theorem check_adds (m : Matcher) (p : Path) : Adds (fun _ => True) none (m.check p) :=
  (adds_remembered (evaluate_adds m p)).mono fun _ _ => trivial

end Matcher

/-! ## Evaluations of a run -/

/-- The sessions that a session comes to by matches, at any paths, and by the stops of a traversal
between them. -/
inductive MatchSession.MatchedTo (s₀ : MatchSession) : MatchSession → Prop
  | start : MatchedTo s₀ s₀
  | checked {s : MatchSession} (m : Matcher) (p : Path) :
      MatchedTo s₀ s → MatchedTo s₀ ((m.check p).exec s).2
  | stopped {s : MatchSession} (stop : Stop) : MatchedTo s₀ s → MatchedTo s₀ (s.logStop stop)

/-- From the session `s₀` to `s` each matcher was evaluated once for each path, up to equality.
`log` is what was written down meanwhile. -/
structure MatchSession.EvaluatesOnce (s₀ s : MatchSession) (log : List MatchEvent) : Prop where
  log_eq : s.log.toList = s₀.log.toList ++ log
  /-- No two evaluations are for equal keys. -/
  once : (evaluations log).Pairwise fun key other => (key == other) = false
  /-- What was asked for was evaluated. -/
  evaluated : ∀ key ∈ questions log, ∃ other ∈ evaluations log, (other == key) = true
  /-- As many answers are remembered as evaluations were made. -/
  size_eq : s.answers.size = (evaluations log).length
  /-- No evaluation begins while one for an equal key is underway. -/
  not_underway : ∀ {before after : List MatchEvent} {key : MatchKey},
    log = before ++ .began key :: after → ∀ other ∈ underway before, (other == key) = false
  /-- All evaluations have come to an end. -/
  ended : underway log = []
  /-- A test that is known by its identity is called once for each different path at which it was
  asked for. -/
  calls_eq : ∀ id, (∀ key ∈ questions log, ∀ other ∈ questions log, key.tests id = true →
      other.tests id = true → key.matcher.same other.matcher = true) →
    s.timesCalled id = s₀.timesCalled id +
      Path.countDifferent (((questions log).filter (·.tests id)).map MatchKey.path)

namespace MatchSession

variable {s₀ s s' : MatchSession} {P : Matcher → Prop} {log : List MatchEvent}

theorem grows_logStop (s : MatchSession) (stop : Stop) :
    Grows (fun _ => True) none s (s.logStop stop) stop.events := by
  obtain ⟨path, pending⟩ := stop
  refine grows_noted _ s (fun event hevent => ?_) fun running => ?_
  · obtain ⟨stack, -, rfl⟩ := List.mem_map.mp hevent
    rfl
  · cases pending <;> rfl

/-- What a run of matches adds. -/
theorem MatchedTo.grows (h : MatchedTo s₀ s) : ∃ log, Grows (fun _ => True) none s₀ s log := by
  induction h with
  | start => exact ⟨[], grows_nil _ s₀⟩
  | @checked s m p _ ih =>
    obtain ⟨log, hgrows⟩ := ih
    obtain ⟨result, s', log', hexec, hgrows'⟩ := m.check_adds p s
    rw [hexec]
    exact ⟨log ++ log', hgrows.trans hgrows'⟩
  | stopped stop _ ih =>
    obtain ⟨log, hgrows⟩ := ih
    exact ⟨log ++ stop.events, hgrows.trans (grows_logStop _ stop)⟩

/-- What is asked for is evaluated, unless its answer was remembered before. -/
theorem Grows.evaluated_of_empty (h : Grows P none s₀ s log) (hempty : s₀.answers = {}) :
    ∀ key ∈ questions log, ∃ other ∈ evaluations log, (other == key) = true := by
  intro key hasked
  refine ((h.mem_iff key).mp (h.mem_of_asked key hasked)).resolve_left ?_
  rw [hempty]
  exact Std.HashMap.not_mem_empty

/-- The evaluations of a test are for different paths, and for all at which it is asked for. -/
theorem Grows.timesCalled_eq (h : Grows P none s₀ s log) (hempty : s₀.answers = {}) {id : Nat}
    (hidentity : ∀ key ∈ questions log, ∀ other ∈ questions log, key.tests id = true →
      other.tests id = true → key.matcher.same other.matcher = true) :
    s.timesCalled id = s₀.timesCalled id +
      Path.countDifferent (((questions log).filter (·.tests id)).map MatchKey.path) := by
  have hcount : Path.countDifferent (((questions log).filter (·.tests id)).map MatchKey.path) =
      (((evaluations log).filter (·.tests id)).map MatchKey.path).length := by
    refine Path.countDifferent_eq_length ?_ ?_ ?_
    · exact List.map_subset _ (List.filter_subset _ evaluations_subset_questions)
    · intro p hp
      obtain ⟨key, hkey, rfl⟩ := List.mem_map.mp hp
      obtain ⟨hasked, htests⟩ := List.mem_filter.mp hkey
      obtain ⟨other, hother, hsame⟩ := h.evaluated_of_empty hempty key hasked
      obtain ⟨hpath, hmatcher⟩ := MatchKey.same_iff.mp hsame
      have htests' : other.tests id = true := by
        rw [MatchKey.tests, Matcher.testId?_eq_of_same hmatcher]
        exact htests
      exact ⟨other.path, List.mem_map_of_mem (List.mem_filter.mpr ⟨hother, htests'⟩), hpath⟩
    · refine List.pairwise_map.mpr ((h.once.filter _).imp_of_mem fun {key other} hk ho hne => ?_)
      obtain ⟨hkey, htests⟩ := List.mem_filter.mp hk
      obtain ⟨hother, htests'⟩ := List.mem_filter.mp ho
      have hmatcher : key.matcher.same other.matcher = true :=
        hidentity key (evaluations_subset_questions hkey) other
          (evaluations_subset_questions hother) htests htests'
      exact Bool.eq_false_iff.mpr fun hpath =>
        Bool.eq_false_iff.mp hne (MatchKey.same_iff.mpr ⟨hpath, hmatcher⟩)
  rw [h.calls_eq id, hcount, List.length_map, if_neg nofun, Nat.add_zero]

/-- Starting with no answers remembered, each evaluation is the only one for its key. -/
theorem Grows.evaluatesOnce (h : Grows P none s₀ s log) (hempty : s₀.answers = {}) :
    EvaluatesOnce s₀ s log where
  log_eq := h.log_eq
  once := h.once
  evaluated := h.evaluated_of_empty hempty
  size_eq := by simp [h.size_eq, hempty]
  not_underway := by
    intro before after key hlog other hother
    have honce := h.once
    rw [hlog, evaluations_append] at honce
    exact (List.pairwise_append.mp honce).2.2 other (underway_subset_evaluations hother) key
      (.head _)
  ended := h.balanced []
  calls_eq := fun _ hidentity => h.timesCalled_eq hempty hidentity

end MatchSession

/-! ## Searches -/

namespace TraversalOrder

open MatchSession

/-- The visitor of a search matches once at each stop, and breaks no precondition. -/
theorem tour_seek_matchedTo {s₀ : MatchSession} (m : Matcher) (stops : List Stop) {s : MatchSession}
    (h : MatchedTo s₀ s) :
    ∃ s' found, (tour (seek m) stops ⟨s, .ok none⟩).1 = ⟨s', .ok found⟩ ∧ MatchedTo s₀ s' := by
  refine tour_induction
    (P := fun state : Search => ∃ s' found, state = ⟨s', .ok found⟩ ∧ MatchedTo s₀ s')
    (fun stop _ state hstate => ?_) ⟨s, none, rfl, h⟩
  obtain ⟨s₁, found, rfl, hmatched⟩ := hstate
  have hmatched' := MatchedTo.checked m stop.path (MatchedTo.stopped stop hmatched)
  obtain ⟨result, s', -, hexec, -⟩ := m.check_adds stop.path (s₁.logStop stop)
  rw [hexec] at hmatched'
  rw [seek, hexec]
  cases result with
  | true => exact ⟨s', some stop.path, rfl, hmatched'⟩
  | false => exact ⟨s', found, rfl, hmatched'⟩

/-- A search is a run of matches from a session with no answers remembered. -/
theorem exec_findFirst_matchedTo (order : TraversalOrder) (m : Matcher) (p : Path)
    (s : MatchSession) :
    ∃ s' found, MatchedTo { s with answers := {} } s' ∧ (order.findFirst m p).exec s =
      (.ok found,
        { s' with
          answers := s.answers, log := s'.log.push (.searched order.name m found.isSome) }) := by
  have hstart : MatchedTo { s with answers := {} } { s with answers := {} } := .start
  obtain ⟨s', found, htour, hmatched⟩ := tour_seek_matchedTo m (order.stops p) hstart
  refine ⟨s', found, hmatched, ?_⟩
  rw [findFirst, Matching.exec_bind, Matching.exec_inFreshMemo, Matching.exec_bind,
    Matching.exec_modifyGet, traverse_eq_tour, htour]
  dsimp only
  rw [exec_liftExcept]
  rfl

end TraversalOrder

open TraversalOrder in
/-- **Each matcher is evaluated once for a path.**  Matches never break a precondition.  Along any
run of them that starts with no answers remembered, in any order and at any paths, no matcher is
evaluated twice for a path, not even while it is being evaluated: equal matchers and equal paths
counting as one, as many answers are remembered as evaluations were made, and a test is called once
for each different path at which it was asked for.  A search is such a run. -/
theorem evaluated_once :
    (∀ (m : Matcher) (p : Path) (s : MatchSession), ∃ result, ((m.check p).exec s).1 = .ok result) ∧
    (∀ s₀ s : MatchSession, s₀.answers = {} → s₀.MatchedTo s →
      ∃ log, MatchSession.EvaluatesOnce s₀ s log) ∧
    ∀ (order : TraversalOrder) (m : Matcher) (p : Path) (s : MatchSession), ∃ s' found log,
      MatchSession.EvaluatesOnce { s with answers := {} } s' log ∧
        (order.findFirst m p).exec s = (.ok found,
          { s' with
            answers := s.answers, log := s'.log.push (.searched order.name m found.isSome) }) := by
  refine ⟨fun m p s => ?_, fun s₀ s hempty hmatched => ?_, fun order m p s => ?_⟩
  · obtain ⟨result, s', log, hexec, -⟩ := m.check_adds p s
    exact ⟨result, by rw [hexec]⟩
  · obtain ⟨log, hgrows⟩ := hmatched.grows
    exact ⟨log, hgrows.evaluatesOnce hempty⟩
  · obtain ⟨s', found, hmatched, hexec⟩ := order.exec_findFirst_matchedTo m p s
    obtain ⟨log, hgrows⟩ := hmatched.grows
    exact ⟨s', found, log, hgrows.evaluatesOnce rfl, hexec⟩

open Matching in
/-- Two equal siblings, matched after a match at one of them.  The test is asked for three times and
called once. -/
theorem evaluated_once_siblings :
    let p := Path.ofRoot ⟨none, some "a", none, [.leaf "b", .leaf "b"]⟩
    let sibling : MatchKey := ⟨p.child (.leaf "b"), Siblings.named⟩
    let both : MatchKey := ⟨p, .eachChild Siblings.named⟩
    let s := ((Siblings.named.check sibling.path).exec {}).2
    let s' := ((both.matcher.check p).exec s).2
    ({} : MatchSession).answers = {} ∧ MatchSession.MatchedTo {} s' ∧
      ∃ log, MatchSession.EvaluatesOnce {} s' log ∧
        evaluations log = [sibling, both] ∧ questions log = [sibling, both, sibling, sibling] ∧
        s'.answers.size = 2 ∧ s'.timesCalled 1 = 1 := by
  intro p sibling both s s'
  have hmatched : MatchSession.MatchedTo {} s' :=
    .checked both.matcher p (.checked Siblings.named _ .start)
  obtain ⟨log, h⟩ := evaluated_once.2.1 {} s' rfl hmatched
  -- The first match calls the test.
  have hempty : ({} : MatchSession).answers[sibling]? = none := Std.HashMap.getElem?_empty
  have hcalled : (Siblings.named.evaluate sibling.path).exec { log := #[.began sibling] } =
      (.ok true, ⟨{}, [(1, 1)], [("named", 1)], #[.began sibling]⟩) := rfl
  have hs : s = ⟨Std.HashMap.insert {} sibling true, [(1, 1)], [("named", 1)],
      #[.began sibling, .answered sibling true]⟩ :=
    congrArg Prod.snd (exec_remembered_of_none hempty hcalled (by simp))
  -- The second one finds the answer of the first one at both siblings.
  have hfound : s.answers[sibling]? = some true := by
    rw [hs]
    exact Std.HashMap.getElem?_insert_self
  have hunknown : s.answers[both]? = none := by
    rw [hs, Std.HashMap.getElem?_insert, if_neg (by decide), Std.HashMap.getElem?_empty]
  have hhit (log : Array MatchEvent) :
      (remembered ⟨p.child (.leaf "b"), Siblings.named⟩
        (Siblings.named.evaluate (p.child (.leaf "b")))).exec { s with log } =
      (.ok true, { s with log := log.push (.memoHit sibling true) }) := by
    have hfound' : ({ s with log } : MatchSession).answers[sibling]? = some true := hfound
    exact exec_remembered_of_some hfound' _
  have hasked : (both.matcher.evaluate p).exec { s with log := s.log.push (.began both) } =
      (.ok true, { s with
        log := ((s.log.push (.began both)).push (.memoHit sibling true)).push
          (.memoHit sibling true) }) := by
    have hchildren : p.leaf.children = [.leaf "b", .leaf "b"] := rfl
    rw [Matcher.evaluate, hchildren]
    simp only [allNodes, exec_bind, hhit, if_true, exec_pure]
  have hagree : s.answers[both]?.any (· != true) = false := by
    rw [hunknown]
    rfl
  have hs' : s' = _ := congrArg Prod.snd (exec_remembered_of_none hunknown hasked hagree)
  have hlog : log = s'.log.toList := h.log_eq.symm
  rw [hs', hs] at hlog
  have hevaluations : evaluations log = [sibling, both] := by
    rw [hlog]
    rfl
  have hquestions : questions log = [sibling, both, sibling, sibling] := by
    rw [hlog]
    rfl
  have hcalls : s'.timesCalled 1 = 1 := by
    rw [hs', hs]
    rfl
  exact ⟨rfl, hmatched, log, h, hevaluations, hquestions,
    h.size_eq.trans (congrArg List.length hevaluations), hcalls⟩

end Packrat
