import Packrat.Matcher.Evaluate
import Packrat.Matcher.Meaning
import Packrat.Proofs.Sameness

/-! # Remembered answers cannot be seen

Matching gives the answer of the matcher's meaning, whatever matches have filled the table before,
at whatever paths (`Matcher.check_finds`).  Keys are compared by what they hold, so the answer of
one matcher at one path is used for all equal ones: what has to be shown besides is that equal
matchers mean the same at equal paths (`Matcher.holds_congr`), on the way down to children and on
the way up.

Tests come from outside.  They have to be functions of the part they are given that do not tell
equal attachments apart, and a test is known by its identity.
-/
namespace Packrat

namespace Matcher

/-- The matchers that a matcher is made of. -/
def parts : Matcher → List Matcher
  | eachChild inner => [inner]
  | parent inner => [inner]
  | children inner => inner
  | all parts => parts
  | any parts => parts
  | _ => []

/-- A set of matchers that is closed under what they are made of.  Their tests answer the same at
each call and for equal attachments, and tests with one identity are one test. -/
structure Family (M : Matcher → Prop) : Prop where
  closed : ∀ m, M m → ∀ part ∈ m.parts, M part
  test_attachment : ∀ p, M (testAttachment p) → ∀ call a b,
    Attachment.sameOption a b = true → p.test call a = p.test 0 b
  test_value : ∀ p, M (testValue p) → ∀ call v, p.test call v = p.test 0 v
  eq_attachment : ∀ p p', M (testAttachment p) → M (testAttachment p') → p.id = p'.id →
    p.test = p'.test
  eq_value : ∀ p p', M (testValue p) → M (testValue p') → p.id = p'.id → p.test = p'.test

end Matcher

/-! ## Equal matchers mean the same at equal paths -/

theorem Node.all_congr {f g : Node → Bool} (h : ∀ a b, Node.same a b = true → f a = g b) :
    ∀ {as bs : List Node}, Node.sameAll as bs = true → as.all f = bs.all g := by
  intro as
  induction as with
  | nil =>
    intro bs hs
    cases bs with
    | nil => rfl
    | cons b bs => simp at hs
  | cons a as ih =>
    intro bs hs
    cases bs with
    | nil => simp at hs
    | cons b bs =>
      rw [Node.sameAll_cons, Bool.and_eq_true] at hs
      rw [List.all_cons, List.all_cons, h a b hs.1, ih hs.2]

namespace Matcher

variable {M : Matcher → Prop}

mutual

/-- **Equal matchers mean the same at equal paths.** -/
theorem holds_congr (h : Family M) : (a b : Matcher) → M a → M b → a.same b = true → {p q : Path} →
    p.same q = true → a.holds p = b.holds q
  | a, b, ha, hb, hab, p, q, hpq => by
    obtain ⟨hleaf, -⟩ := (Path.same_iff p q).mp hpq
    obtain ⟨-, hvalue, hattachment, hchildren⟩ := (Node.same_iff _ _).mp hleaf
    match a, b, agrees_of_same hab with
    | _, _, .childCount n =>
      rw [holds, holds, Node.length_eq_of_sameAll hchildren]
    | eachChild m, eachChild m', .eachChild hm =>
      rw [holds, holds]
      refine Node.all_congr (fun c d hcd => ?_) hchildren
      exact holds_congr h m m' (h.closed _ ha m (.head _)) (h.closed _ hb m' (.head _)) hm
        (Path.same_child hpq hcd)
    | parent m, parent m', .parent hm =>
      rw [holds, holds]
      obtain ⟨hp, hq⟩ | ⟨p', q', hp, hq, hpq'⟩ := Path.same_parent hpq
      · rw [hp, hq]
      · rw [hp, hq]
        exact holds_congr h m m' (h.closed _ ha m (.head _)) (h.closed _ hb m' (.head _)) hm hpq'
    | _, _, .attachment hexpected =>
      rw [holds, holds]
      exact Attachment.sameOption_congr hattachment hexpected
    | _, _, .value v => rw [holds, holds, hvalue]
    | testAttachment t, testAttachment t', .testAttachment hid =>
      rw [holds, holds, h.test_attachment t ha 0 _ _ hattachment, h.eq_attachment t t' ha hb hid]
    | testValue t, testValue t', .testValue hid =>
      rw [holds, holds, hvalue, h.eq_value t t' ha hb hid]
    | children ms, children ms', .children hms =>
      exact holdEach_congr h ms ms' (h.closed _ ha) (h.closed _ hb) hms hpq hchildren
    | all ms, all ms', .all hms =>
      exact holdAll_congr h ms ms' (h.closed _ ha) (h.closed _ hb) hms hpq
    | any ms, any ms', .any hms =>
      exact holdAny_congr h ms ms' (h.closed _ ha) (h.closed _ hb) hms hpq

theorem holdEach_congr (h : Family M) : (as bs : List Matcher) → (∀ a ∈ as, M a) → (∀ b ∈ bs, M b) →
    sameAll as bs = true → {p q : Path} → p.same q = true → {ns ns' : List Node} →
    Node.sameAll ns ns' = true → holdEach as p ns = holdEach bs q ns'
  | [], [], _, _, _, _, _, _, [], [], _ => rfl
  | [], [], _, _, _, _, _, _, _ :: _, _ :: _, _ => rfl
  | _ :: _, _ :: _, _, _, _, _, _, _, [], [], _ => rfl
  | a :: as, b :: bs, ha, hb, hab, p, q, hpq, n :: ns, n' :: ns', hn => by
    rw [sameAll_cons, Bool.and_eq_true] at hab
    rw [Node.sameAll_cons, Bool.and_eq_true] at hn
    rw [holdEach, holdEach,
      holds_congr h a b (ha a (.head _)) (hb b (.head _)) hab.1 (Path.same_child hpq hn.1),
      holdEach_congr h as bs (fun c hc => ha c (.tail _ hc)) (fun c hc => hb c (.tail _ hc)) hab.2
        hpq hn.2]

theorem holdAll_congr (h : Family M) : (as bs : List Matcher) → (∀ a ∈ as, M a) → (∀ b ∈ bs, M b) →
    sameAll as bs = true → {p q : Path} → p.same q = true → holdAll as p = holdAll bs q
  | [], [], _, _, _, _, _, _ => rfl
  | a :: as, b :: bs, ha, hb, hab, p, q, hpq => by
    rw [sameAll_cons, Bool.and_eq_true] at hab
    rw [holdAll, holdAll, holds_congr h a b (ha a (.head _)) (hb b (.head _)) hab.1 hpq,
      holdAll_congr h as bs (fun c hc => ha c (.tail _ hc)) (fun c hc => hb c (.tail _ hc)) hab.2
        hpq]

theorem holdAny_congr (h : Family M) : (as bs : List Matcher) → (∀ a ∈ as, M a) → (∀ b ∈ bs, M b) →
    sameAll as bs = true → {p q : Path} → p.same q = true → holdAny as p = holdAny bs q
  | [], [], _, _, _, _, _, _ => rfl
  | a :: as, b :: bs, ha, hb, hab, p, q, hpq => by
    rw [sameAll_cons, Bool.and_eq_true] at hab
    rw [holdAny, holdAny, holds_congr h a b (ha a (.head _)) (hb b (.head _)) hab.1 hpq,
      holdAny_congr h as bs (fun c hc => ha c (.tail _ hc)) (fun c hc => hb c (.tail _ hc)) hab.2
        hpq]

end

end Matcher

/-! ## Matching finds the meaning -/

/-- Each remembered answer is what its matcher means at its path. -/
def MatchSession.Valid (M : Matcher → Prop) (s : MatchSession) : Prop :=
  ∀ m p, M m → ∀ result, s.answers[(⟨p, m⟩ : MatchKey)]? = some result → result = m.holds p

/-- The sessions whose answers come from matches of members of `M`, at any paths. -/
inductive MatchSession.Reached (M : Matcher → Prop) : MatchSession → Prop
  | fresh {s : MatchSession} : s.answers = {} → Reached M s
  | checked {s : MatchSession} (m : Matcher) (p : Path) :
      Reached M s → M m → Reached M ((m.check p).exec s).2

/-- The computation answers `answer`, and keeps what is remembered valid. -/
def Matching.Finds (M : Matcher → Prop) (x : Matching Bool) (answer : Bool) : Prop :=
  ∀ s, MatchSession.Valid M s → ∃ s', x.exec s = (.ok answer, s') ∧ MatchSession.Valid M s'

namespace Matching

variable {M : Matcher → Prop}

theorem finds_pure (answer : Bool) : Finds M (pure answer) answer :=
  fun s hv => ⟨s, rfl, hv⟩

theorem Finds.bind {x : Matching Bool} {f : Bool → Matching Bool} {a b : Bool}
    (hx : Finds M x a) (hf : Finds M (f a) b) : Finds M (x >>= f) b := by
  intro s hv
  obtain ⟨s₁, hx, hv₁⟩ := hx s hv
  obtain ⟨s', hf, hv'⟩ := hf s₁ hv₁
  refine ⟨s', ?_, hv'⟩
  rw [exec_bind, hx]
  exact hf

/-- A test of a family answers as if it were called for the first time. -/
theorem finds_callTest {α : Type} {p : Predicate α} {part : Option α}
    (h : ∀ call, p.test call part = p.test 0 part) :
    Finds M (callTest p part) (p.test 0 part) := by
  intro s hv
  rw [exec_callTest, h]
  exact ⟨_, rfl, hv⟩

theorem finds_allNodes {test : Node → Matching Bool} {f : Node → Bool}
    (h : ∀ node, Finds M (test node) (f node)) :
    ∀ nodes, Finds M (allNodes test nodes) (nodes.all f) := by
  intro nodes
  induction nodes with
  | nil => exact finds_pure true
  | cons node nodes ih =>
    refine (h node).bind ?_
    rw [List.all_cons]
    cases f node with
    | true => exact ih
    | false => exact finds_pure false

/-- Storing what a member means at a path keeps the answers valid: they are used for equal members
at equal paths only. -/
theorem valid_insert (h : Matcher.Family M) {s : MatchSession} (hv : s.Valid M) {m : Matcher}
    (hm : M m) (p : Path) {calls : List (Nat × Nat)} {counts : Counts} {log : Array MatchEvent} :
    MatchSession.Valid M ⟨s.answers.insert ⟨p, m⟩ (m.holds p), calls, counts, log⟩ := by
  intro m' p' hm' result hresult
  rw [Std.HashMap.getElem?_insert] at hresult
  by_cases hkey : ((⟨p, m⟩ : MatchKey) == ⟨p', m'⟩) = true
  · rw [if_pos hkey] at hresult
    obtain ⟨hp, hmm⟩ := MatchKey.same_iff.mp hkey
    exact (Option.some.inj hresult).symm.trans (Matcher.holds_congr h m m' hm hm' hmm hp)
  · rw [if_neg hkey] at hresult
    exact hv m' p' hm' result hresult

/-- A remembered answer is what evaluating would have found. -/
theorem finds_remembered (h : Matcher.Family M) {m : Matcher} (hm : M m) {p : Path}
    {compute : Matching Bool} (hc : Finds M compute (m.holds p)) :
    Finds M (remembered ⟨p, m⟩ compute) (m.holds p) := by
  intro s hv
  cases hentry : s.answers[(⟨p, m⟩ : MatchKey)]? with
  | some result =>
    obtain rfl := hv m p hm result hentry
    exact ⟨_, exec_remembered_of_some hentry compute, hv⟩
  | none =>
    obtain ⟨s₁, hcompute, hv₁⟩ := hc { s with log := s.log.push (.began ⟨p, m⟩) } hv
    -- An equal key may have been stored meanwhile, but then with the same answer.
    have hagree : s₁.answers[(⟨p, m⟩ : MatchKey)]?.any (· != m.holds p) = false := by
      cases hprevious : s₁.answers[(⟨p, m⟩ : MatchKey)]? with
      | none => rfl
      | some previous => simp [hv₁ m p hm previous hprevious]
    exact ⟨_, exec_remembered_of_none hentry hcompute hagree, valid_insert h hv₁ hm p⟩

end Matching

namespace Matcher

variable {M : Matcher → Prop}

theorem holdEach_eq_false_of_length_ne : ∀ {ms : List Matcher} {p : Path} {nodes : List Node},
    nodes.length ≠ ms.length → holdEach ms p nodes = false
  | [], _, [], hne => absurd rfl hne
  | [], _, _ :: _, _ => rfl
  | _ :: _, _, [], _ => rfl
  | m :: ms, p, node :: nodes, hne => by
    rw [holdEach, holdEach_eq_false_of_length_ne fun heq => hne (congrArg Nat.succ heq),
      Bool.and_false]

mutual

/-- **Evaluating finds what the matcher means.** -/
theorem evaluate_finds (h : Family M) : (m : Matcher) → M m → (p : Path) →
    Matching.Finds M (m.evaluate p) (m.holds p)
  | childCount n, _, p => Matching.finds_pure _
  | eachChild m, hm, p => by
    have hpart : M m := h.closed _ hm m (.head _)
    rw [evaluate, holds]
    exact Matching.finds_allNodes
      (fun node => Matching.finds_remembered h hpart (evaluate_finds h m hpart (p.child node))) _
  | parent m, hm, p => by
    have hpart : M m := h.closed _ hm m (.head _)
    rw [evaluate, holds]
    cases p.parent? with
    | none => exact Matching.finds_pure false
    | some q => exact Matching.finds_remembered h hpart (evaluate_finds h m hpart q)
  | attachment expected, _, p => Matching.finds_pure _
  | value expected, _, p => Matching.finds_pure _
  | testAttachment test, hm, p =>
    Matching.finds_callTest fun call =>
      h.test_attachment test hm call _ _ (Attachment.sameOption_self _)
  | testValue test, hm, p => Matching.finds_callTest fun call => h.test_value test hm call _
  | children ms, hm, p => by
    rw [evaluate, holds]
    by_cases hlength : p.leaf.children.length = ms.length
    · rw [if_pos hlength]
      exact evaluateEach_finds h ms (h.closed _ hm) p _ hlength
    · rw [if_neg hlength, holdEach_eq_false_of_length_ne hlength]
      exact Matching.finds_pure false
  | all ms, hm, p => evaluateAll_finds h ms (h.closed _ hm) p
  | any ms, hm, p => evaluateAny_finds h ms (h.closed _ hm) p

theorem evaluateEach_finds (h : Family M) : (ms : List Matcher) → (∀ m ∈ ms, M m) → (p : Path) →
    (nodes : List Node) → nodes.length = ms.length →
    Matching.Finds M (evaluateEach ms p nodes) (holdEach ms p nodes)
  | [], _, p, [], _ => Matching.finds_pure true
  | m :: ms, hms, p, node :: nodes, hlength => by
    have hm : M m := hms m (.head _)
    rw [evaluateEach, holdEach]
    refine (Matching.finds_remembered h hm (evaluate_finds h m hm (p.child node))).bind ?_
    cases m.holds (p.child node) with
    | true =>
      exact evaluateEach_finds h ms (fun m' hm' => hms m' (.tail _ hm')) p nodes
        (Nat.succ.inj hlength)
    | false => exact Matching.finds_pure false

theorem evaluateAll_finds (h : Family M) : (ms : List Matcher) → (∀ m ∈ ms, M m) → (p : Path) →
    Matching.Finds M (evaluateAll ms p) (holdAll ms p)
  | [], _, p => Matching.finds_pure true
  | m :: ms, hms, p => by
    have hm : M m := hms m (.head _)
    rw [evaluateAll, holdAll]
    refine (Matching.finds_remembered h hm (evaluate_finds h m hm p)).bind ?_
    cases m.holds p with
    | true => exact evaluateAll_finds h ms (fun m' hm' => hms m' (.tail _ hm')) p
    | false => exact Matching.finds_pure false

theorem evaluateAny_finds (h : Family M) : (ms : List Matcher) → (∀ m ∈ ms, M m) → (p : Path) →
    Matching.Finds M (evaluateAny ms p) (holdAny ms p)
  | [], _, p => Matching.finds_pure false
  | m :: ms, hms, p => by
    have hm : M m := hms m (.head _)
    rw [evaluateAny, holdAny]
    refine (Matching.finds_remembered h hm (evaluate_finds h m hm p)).bind ?_
    cases m.holds p with
    | true => exact Matching.finds_pure true
    | false => exact evaluateAny_finds h ms (fun m' hm' => hms m' (.tail _ hm')) p

end

theorem check_finds (h : Family M) {m : Matcher} (hm : M m) (p : Path) :
    Matching.Finds M (m.check p) (m.holds p) :=
  Matching.finds_remembered h hm (evaluate_finds h m hm p)

/-- What members have remembered is valid. -/
theorem valid_of_reached (h : Family M) {s : MatchSession} (hs : s.Reached M) : s.Valid M := by
  induction hs with
  | fresh hempty =>
    intro m p _ result hresult
    rw [hempty] at hresult
    simp at hresult
  | checked m p _ hm ih =>
    obtain ⟨s', hexec, hv'⟩ := check_finds h hm p _ ih
    rw [hexec]
    exact hv'

end Matcher

namespace Siblings

/-- A test of values. -/
def named : Matcher := .testValue ⟨1, "named", fun _ value => value.isSome⟩

/-- A test of attachments. -/
def tagged : Matcher := .testAttachment ⟨2, "tagged", fun _ attachment => attachment.isSome⟩

/-- A node below one with two children. -/
def paired : Matcher := .parent (.childCount 2)

/-- Two named children, the first of them in a pair. -/
def pair : Matcher := .all [.eachChild named, .children [paired, .any [tagged, named]]]

def matchers : List Matcher :=
  [pair, .eachChild named, .children [paired, .any [tagged, named]], paired,
    .any [tagged, named], .childCount 2, named, tagged]

theorem family : Matcher.Family (· ∈ matchers) where
  closed := by
    intro m hm part hpart
    simp only [matchers, pair, paired, named, tagged, List.mem_cons, List.not_mem_nil,
      or_false] at hm
    rcases hm with rfl | rfl | rfl | rfl | rfl | rfl | rfl | rfl <;>
      simp [Matcher.parts] at hpart
    all_goals
      first
      | obtain rfl := hpart
      | obtain rfl | rfl := hpart
      all_goals simp [matchers, pair, paired, named, tagged]
  test_attachment := by
    intro p hp call a b hab
    simp [matchers, pair, paired, named, tagged] at hp
    obtain rfl := hp
    cases a <;> cases b <;> first | rfl | cases hab
  test_value := by
    intro p hp call v
    simp [matchers, pair, paired, named, tagged] at hp
    obtain rfl := hp
    rfl
  eq_attachment := by
    intro p p' hp hp' _
    simp [matchers, pair, paired, named, tagged] at hp hp'
    rw [hp, hp']
  eq_value := by
    intro p p' hp hp' _
    simp [matchers, pair, paired, named, tagged] at hp hp'
    rw [hp, hp']

end Siblings

end Packrat
