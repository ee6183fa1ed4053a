import Packrat.Matcher.Session

/-! # Equality of attachments, trees, paths and matchers

These values are compared by what they hold, and attachments also by their allocation.  All the
comparisons are equivalences, and of what is compared equal the same is hashed.  Paths with matchers
can therefore be the keys of a table, in which equal keys share their entry.
-/
namespace Packrat

/-! ## Attachments -/

theorem Payload.same_symm {a b : Payload} (h : a.same b = true) : b.same a = true := by
  cases a <;> cases b <;> simp [same] at h ⊢ <;> grind

theorem Payload.same_trans {a b c : Payload} (h : a.same b = true) (h' : b.same c = true) :
    a.same c = true := by
  cases a <;> cases b <;> simp [same] at h <;> cases c <;> simp [same] at h' ⊢ <;> grind

theorem Payload.typeName_eq_of_same {a b : Payload} (h : a.same b = true) :
    a.typeName = b.typeName := by
  cases a <;> cases b <;> simp_all [same, typeName]

namespace Attachment

theorem same_symm {a b : Attachment} (h : a.same b = true) : b.same a = true := by
  rw [same, Bool.or_eq_true, beq_iff_eq] at h
  rcases h with rfl | h
  · exact same_self a
  · simp [same, Payload.same_symm h]

theorem same_trans {a b c : Attachment} (h : a.same b = true) (h' : b.same c = true) :
    a.same c = true := by
  rw [same, Bool.or_eq_true, beq_iff_eq] at h h'
  rcases h with rfl | h
  · rcases h' with rfl | h'
    · exact same_self a
    · simp [same, h']
  · rcases h' with rfl | h'
    · simp [same, h]
    · simp [same, Payload.same_trans h h']

theorem sameOption_symm {a b : Option Attachment} (h : sameOption a b = true) :
    sameOption b a = true := by
  cases a <;> cases b
  · rfl
  · cases h
  · cases h
  · exact same_symm h

theorem sameOption_trans {a b c : Option Attachment} (h : sameOption a b = true)
    (h' : sameOption b c = true) : sameOption a c = true := by
  cases a <;> cases b <;> cases c <;> first | rfl | contradiction | exact same_trans h h'

/-- What attachments are compared with does not depend on which of two equal ones is compared. -/
theorem sameOption_congr {a b c d : Option Attachment} (h : sameOption a b = true)
    (h' : sameOption c d = true) : sameOption a c = sameOption b d := by
  rw [Bool.eq_iff_iff]
  constructor
  · intro hac
    exact sameOption_trans (sameOption_symm h) (sameOption_trans hac h')
  · intro hbd
    exact sameOption_trans h (sameOption_trans hbd (sameOption_symm h'))

theorem hashed_eq_of_same {a b : Option Attachment} (h : sameOption a b = true) :
    hashed a = hashed b := by
  cases a <;> cases b
  · rfl
  · cases h
  · cases h
  · rename_i a b
    have htype : a.payload.typeName = b.payload.typeName := by
      rw [sameOption, same, Bool.or_eq_true, beq_iff_eq] at h
      rcases h with rfl | h
      · rfl
      · exact Payload.typeName_eq_of_same h
    simp [hashed, htype]

end Attachment

/-! ## Trees -/

namespace Node

/-- Equal trees agree in their parts. -/
theorem same_iff (a b : Node) :
    a.same b = true ↔ a.span = b.span ∧ a.value = b.value ∧
      Attachment.sameOption a.attachment b.attachment = true ∧
      sameAll a.children b.children = true := by
  obtain ⟨span, value, attachment, children⟩ := a
  obtain ⟨span', value', attachment', children'⟩ := b
  simp only [same_mk, Bool.and_eq_true, beq_iff_eq, and_assoc]

mutual

theorem same_symm : (a b : Node) → a.same b = true → b.same a = true
  | ⟨span, value, attachment, children⟩, ⟨_, _, _, children'⟩, h => by
    obtain ⟨hs, hv, ha, hc⟩ := (same_iff _ _).mp h
    exact (same_iff _ _).mpr ⟨hs.symm, hv.symm, Attachment.sameOption_symm ha,
      sameAll_symm children children' hc⟩

theorem sameAll_symm : (as bs : List Node) → sameAll as bs = true → sameAll bs as = true
  | [], [], _ => rfl
  | a :: as, b :: bs, h => by
    rw [sameAll_cons, Bool.and_eq_true] at h ⊢
    exact ⟨same_symm a b h.1, sameAll_symm as bs h.2⟩

end

mutual

theorem same_trans : (a b c : Node) → a.same b = true → b.same c = true → a.same c = true
  | ⟨_, _, _, children⟩, ⟨_, _, _, children'⟩, ⟨_, _, _, children''⟩, h, h' => by
    obtain ⟨hs, hv, ha, hc⟩ := (same_iff _ _).mp h
    obtain ⟨hs', hv', ha', hc'⟩ := (same_iff _ _).mp h'
    exact (same_iff _ _).mpr ⟨hs.trans hs', hv.trans hv', Attachment.sameOption_trans ha ha',
      sameAll_trans children children' children'' hc hc'⟩

theorem sameAll_trans : (as bs cs : List Node) → sameAll as bs = true → sameAll bs cs = true →
    sameAll as cs = true
  | [], [], [], _, _ => rfl
  | a :: as, b :: bs, c :: cs, h, h' => by
    rw [sameAll_cons, Bool.and_eq_true] at h h' ⊢
    exact ⟨same_trans a b c h.1 h'.1, sameAll_trans as bs cs h.2 h'.2⟩

end

theorem length_eq_of_sameAll : {as bs : List Node} → sameAll as bs = true → as.length = bs.length
  | [], [], _ => rfl
  | a :: as, b :: bs, h => by
    rw [sameAll_cons, Bool.and_eq_true] at h
    simp [length_eq_of_sameAll h.2]

theorem hashed_eq_of_same {a b : Node} (h : a.same b = true) : a.hashed = b.hashed := by
  obtain ⟨-, hv, ha, -⟩ := (same_iff a b).mp h
  rw [hashed, hashed, hv, Attachment.hashed_eq_of_same ha]

theorem flatMap_hashed_eq_of_sameAll : {as bs : List Node} → sameAll as bs = true →
    as.flatMap hashed = bs.flatMap hashed
  | [], [], _ => rfl
  | a :: as, b :: bs, h => by
    rw [sameAll_cons, Bool.and_eq_true] at h
    rw [List.flatMap_cons, List.flatMap_cons, hashed_eq_of_same h.1,
      flatMap_hashed_eq_of_sameAll h.2]

theorem sameAll_append {as bs as' bs' : List Node} (h : sameAll as bs = true)
    (h' : sameAll as' bs' = true) : sameAll (as ++ as') (bs ++ bs') = true := by
  induction as generalizing bs with
  | nil =>
    cases bs with
    | nil => exact h'
    | cons b bs => cases h
  | cons a as ih =>
    cases bs with
    | nil => cases h
    | cons b bs =>
      rw [sameAll_cons, Bool.and_eq_true] at h
      rw [List.cons_append, List.cons_append, sameAll_cons, h.1, ih h.2]
      rfl

theorem sameAll_reverse : {as bs : List Node} → sameAll as bs = true →
    sameAll as.reverse bs.reverse = true
  | [], [], _ => rfl
  | a :: as, b :: bs, h => by
    rw [sameAll_cons, Bool.and_eq_true] at h
    rw [List.reverse_cons, List.reverse_cons]
    exact sameAll_append (sameAll_reverse h.2) (by rw [sameAll_cons, h.1]; rfl)

end Node

/-! ## Paths -/

namespace Path

theorem same_iff (p q : Path) :
    p.same q = true ↔ p.leaf.same q.leaf = true ∧ Node.sameAll p.ancestors q.ancestors = true := by
  rw [same, Bool.and_eq_true]

theorem same_self (p : Path) : p.same p = true :=
  (same_iff p p).mpr ⟨Node.same_self _, Node.sameAll_self _⟩

theorem same_symm {p q : Path} (h : p.same q = true) : q.same p = true := by
  obtain ⟨hl, ha⟩ := (same_iff p q).mp h
  exact (same_iff q p).mpr ⟨Node.same_symm _ _ hl, Node.sameAll_symm _ _ ha⟩

theorem same_trans {p q r : Path} (h : p.same q = true) (h' : q.same r = true) :
    p.same r = true := by
  obtain ⟨hl, ha⟩ := (same_iff p q).mp h
  obtain ⟨hl', ha'⟩ := (same_iff q r).mp h'
  exact (same_iff p r).mpr ⟨Node.same_trans _ _ _ hl hl', Node.sameAll_trans _ _ _ ha ha'⟩

/-- Equal paths have equal nodes at every place, also from the root on. -/
theorem sameAll_nodes {p q : Path} (h : p.same q = true) : Node.sameAll p.nodes q.nodes = true := by
  obtain ⟨hl, ha⟩ := (same_iff p q).mp h
  exact Node.sameAll_append (Node.sameAll_reverse ha) (by rw [Node.sameAll_cons, hl]; rfl)

theorem hashed_eq_of_same {p q : Path} (h : p.same q = true) : p.hashed = q.hashed :=
  Node.flatMap_hashed_eq_of_sameAll (sameAll_nodes h)

/-- Going down to equal children leads from equal paths to equal paths. -/
theorem same_child {p q : Path} {a b : Node} (h : p.same q = true) (hab : a.same b = true) :
    (p.child a).same (q.child b) = true := by
  refine (same_iff _ _).mpr ⟨hab, ?_⟩
  rw [child, child, Node.sameAll_cons]
  exact h

/-- Going up leads from equal paths to equal paths, or nowhere from either. -/
theorem same_parent {p q : Path} (h : p.same q = true) :
    (p.parent? = none ∧ q.parent? = none) ∨
      ∃ p' q', p.parent? = some p' ∧ q.parent? = some q' ∧ p'.same q' = true := by
  obtain ⟨leaf, ancestors⟩ := p
  obtain ⟨leaf', ancestors'⟩ := q
  have ha := ((same_iff _ _).mp h).2
  match ancestors, ancestors', ha with
  | [], [], _ => exact .inl ⟨rfl, rfl⟩
  | _ :: _, _ :: _, ha => exact .inr ⟨_, _, rfl, rfl, ha⟩

end Path

/-! ## Matchers -/

namespace Matcher

/-- Matchers that are compared equal, taken apart. -/
inductive Agrees : Matcher → Matcher → Prop
  | childCount (n : Nat) : Agrees (childCount n) (childCount n)
  | eachChild {m m' : Matcher} : m.same m' = true → Agrees (eachChild m) (eachChild m')
  | parent {m m' : Matcher} : m.same m' = true → Agrees (parent m) (parent m')
  | attachment {a a' : Option Attachment} :
      Attachment.sameOption a a' = true → Agrees (attachment a) (attachment a')
  | value (v : Option String) : Agrees (value v) (value v)
  | testAttachment {p p' : Predicate Attachment} :
      p.id = p'.id → Agrees (testAttachment p) (testAttachment p')
  | testValue {p p' : Predicate String} : p.id = p'.id → Agrees (testValue p) (testValue p')
  | children {ms ms' : List Matcher} : sameAll ms ms' = true → Agrees (children ms) (children ms')
  | all {ms ms' : List Matcher} : sameAll ms ms' = true → Agrees (all ms) (all ms')
  | any {ms ms' : List Matcher} : sameAll ms ms' = true → Agrees (any ms) (any ms')

/-- Equal matchers are of one kind and have equal parts. -/
theorem agrees_of_same {a b : Matcher} (h : a.same b = true) : a.Agrees b := by
  by_cases hk : a.kind = b.kind
  · cases a <;> cases b <;> cases hk
    · obtain rfl := eq_of_beq ((same_childCount ..).symm.trans h)
      exact .childCount _
    · exact .eachChild h
    · exact .parent h
    · exact .attachment h
    · obtain rfl := eq_of_beq ((same_value ..).symm.trans h)
      exact .value _
    · exact .testAttachment (eq_of_beq h)
    · exact .testValue (eq_of_beq h)
    · exact .children h
    · exact .all h
    · exact .any h
  · rw [same_eq_false_of_kind_ne hk] at h
    cases h

mutual

theorem same_symm : (a b : Matcher) → a.same b = true → b.same a = true
  | a, b, h => by
    match a, b, agrees_of_same h with
    | _, _, .childCount n => exact same_self _
    | eachChild m, eachChild m', .eachChild hm => exact same_symm m m' hm
    | parent m, parent m', .parent hm => exact same_symm m m' hm
    | _, _, .attachment ha => exact Attachment.sameOption_symm ha
    | _, _, .value v => exact same_self _
    | _, _, .testAttachment hid => exact beq_iff_eq.mpr hid.symm
    | _, _, .testValue hid => exact beq_iff_eq.mpr hid.symm
    | children ms, children ms', .children hms => exact sameAll_symm ms ms' hms
    | all ms, all ms', .all hms => exact sameAll_symm ms ms' hms
    | any ms, any ms', .any hms => exact sameAll_symm ms ms' hms

theorem sameAll_symm : (as bs : List Matcher) → sameAll as bs = true → sameAll bs as = true
  | [], [], _ => rfl
  | a :: as, b :: bs, h => by
    rw [sameAll_cons, Bool.and_eq_true] at h ⊢
    exact ⟨same_symm a b h.1, sameAll_symm as bs h.2⟩

end

mutual

theorem same_trans : (a b c : Matcher) → a.same b = true → b.same c = true → a.same c = true
  | a, b, c, h, h' => by
    match a, b, agrees_of_same h with
    | _, _, .childCount n => exact h'
    | eachChild m, eachChild m', .eachChild hm =>
      match c, agrees_of_same h' with
      | eachChild m'', .eachChild hm' => exact same_trans m m' m'' hm hm'
    | parent m, parent m', .parent hm =>
      match c, agrees_of_same h' with
      | parent m'', .parent hm' => exact same_trans m m' m'' hm hm'
    | _, _, .attachment ha =>
      match c, agrees_of_same h' with
      | _, .attachment ha' => exact Attachment.sameOption_trans ha ha'
    | _, _, .value v => exact h'
    | _, _, .testAttachment hid =>
      match c, agrees_of_same h' with
      | _, .testAttachment hid' => exact beq_iff_eq.mpr (hid.trans hid')
    | _, _, .testValue hid =>
      match c, agrees_of_same h' with
      | _, .testValue hid' => exact beq_iff_eq.mpr (hid.trans hid')
    | children ms, children ms', .children hms =>
      match c, agrees_of_same h' with
      | children ms'', .children hms' => exact sameAll_trans ms ms' ms'' hms hms'
    | all ms, all ms', .all hms =>
      match c, agrees_of_same h' with
      | all ms'', .all hms' => exact sameAll_trans ms ms' ms'' hms hms'
    | any ms, any ms', .any hms =>
      match c, agrees_of_same h' with
      | any ms'', .any hms' => exact sameAll_trans ms ms' ms'' hms hms'

theorem sameAll_trans : (as bs cs : List Matcher) → sameAll as bs = true →
    sameAll bs cs = true → sameAll as cs = true
  | [], [], [], _, _ => rfl
  | a :: as, b :: bs, c :: cs, h, h' => by
    rw [sameAll_cons, Bool.and_eq_true] at h h' ⊢
    exact ⟨same_trans a b c h.1 h'.1, sameAll_trans as bs cs h.2 h'.2⟩

end

theorem length_eq_of_sameAll : {as bs : List Matcher} → sameAll as bs = true →
    as.length = bs.length
  | [], [], _ => rfl
  | a :: as, b :: bs, h => by
    rw [sameAll_cons, Bool.and_eq_true] at h
    simp [length_eq_of_sameAll h.2]

mutual

theorem hashed_eq_of_same : (a b : Matcher) → a.same b = true → a.hashed = b.hashed
  | a, b, h => by
    match a, b, agrees_of_same h with
    | _, _, .childCount n => rfl
    | eachChild m, eachChild m', .eachChild hm =>
      rw [hashed, hashed, hashed_eq_of_same m m' hm]
      rfl
    | parent m, parent m', .parent hm =>
      rw [hashed, hashed, hashed_eq_of_same m m' hm]
      rfl
    | _, _, .attachment ha =>
      rw [hashed, hashed, Attachment.hashed_eq_of_same ha]
      rfl
    | _, _, .value v => rfl
    | _, _, .testAttachment hid =>
      rw [hashed, hashed, hid]
      rfl
    | _, _, .testValue hid =>
      rw [hashed, hashed, hid]
      rfl
    | children ms, children ms', .children hms =>
      rw [hashed, hashed, hashedAll_eq_of_sameAll ms ms' hms, length_eq_of_sameAll hms]
      rfl
    | all ms, all ms', .all hms =>
      rw [hashed, hashed, hashedAll_eq_of_sameAll ms ms' hms, length_eq_of_sameAll hms]
      rfl
    | any ms, any ms', .any hms =>
      rw [hashed, hashed, hashedAll_eq_of_sameAll ms ms' hms, length_eq_of_sameAll hms]
      rfl

theorem hashedAll_eq_of_sameAll : (as bs : List Matcher) → sameAll as bs = true →
    hashedAll as = hashedAll bs
  | [], [], _ => rfl
  | a :: as, b :: bs, h => by
    rw [sameAll_cons, Bool.and_eq_true] at h
    rw [hashedAll, hashedAll, hashed_eq_of_same a b h.1, hashedAll_eq_of_sameAll as bs h.2]

end

end Matcher

/-! ## Keys -/

namespace MatchKey

theorem same_iff {a b : MatchKey} :
    (a == b) = true ↔ a.path.same b.path = true ∧ a.matcher.same b.matcher = true :=
  iff_of_eq (Bool.and_eq_true _ _)

instance : EquivBEq MatchKey where
  rfl := same_iff.mpr ⟨Path.same_self _, Matcher.same_self _⟩
  symm h := same_iff.mpr ⟨Path.same_symm (same_iff.mp h).1, Matcher.same_symm _ _ (same_iff.mp h).2⟩
  trans h h' := same_iff.mpr
    ⟨Path.same_trans (same_iff.mp h).1 (same_iff.mp h').1,
      Matcher.same_trans _ _ _ (same_iff.mp h).2 (same_iff.mp h').2⟩

theorem hashed_eq_of_same {a b : MatchKey} (h : (a == b) = true) : a.hashed = b.hashed := by
  obtain ⟨hp, hm⟩ := same_iff.mp h
  rw [hashed, hashed, Path.hashed_eq_of_same hp, Matcher.hashed_eq_of_same _ _ hm]

instance : LawfulHashable MatchKey where
  hash_eq _ _ h := congrArg (fun items : List HashItem => hash items) (hashed_eq_of_same h)

end MatchKey

end Packrat
