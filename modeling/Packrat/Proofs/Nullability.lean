import Packrat.Proofs.MemoTransparency

/-! # Matching nothing

A grammar can match nothing when there is a window of which it takes no character and yet matches.
`Grammar.Nullable` says so by looking at the grammar alone: an inductive definition with a rule for
each combinator, in which a reference is as nullable as the grammar it stands for.  It leaves no
such grammar out (`Repertoire.nullable_of_canMatchEmpty`).  It does take in grammars that always
take a character or fail, such as a repetition whose body contradicts itself.
-/
namespace Packrat

/-- There is a window of which `g` takes nothing, and yet matches. -/
def Grammar.CanMatchEmpty (bindings : Bindings) (g : Grammar) : Prop :=
  ∃ w o rest, g.Answers ⟨bindings, false⟩ w .empty {} (.ok o) ∧ o.result = .ok rest ∧
    rest.start = w.start

/-- The grammars that may match nothing, as far as their form tells. -/
inductive Grammar.Nullable (bindings : Bindings) : Grammar → Prop
  | exact {factory : Option Factory} : Nullable bindings (.exact "" factory)
  | charRun {max : Option Nat} {cls : CharClass} {factory : Option Factory} :
      Nullable bindings (.charRun 0 max cls factory)
  | endOfInput : Nullable bindings .endOfInput
  | skip {body : Grammar} : Nullable bindings body → Nullable bindings (.skip body)
  | require {body : Grammar} : Nullable bindings body → Nullable bindings (.require body)
  | group {name : String} {body : Grammar} :
      Nullable bindings body → Nullable bindings (.group name body)
  | replace {translator : Translator} {body : Grammar} :
      Nullable bindings body → Nullable bindings (.replace translator body)
  | reference {name : String} {target : Grammar} :
      bindings.target? name = some target → Nullable bindings target →
      Nullable bindings (.reference name)
  | windowed {size : Nat} {body : Grammar} :
      Nullable bindings body → Nullable bindings (.windowed size body)
  | sequence {id : ConsumerId} {parts : List Grammar} {factory : Option Factory} :
      (∀ part ∈ parts, Nullable bindings part) →
      Nullable bindings (.memoized id (.sequence parts factory))
  | choice {id : ConsumerId} {branches : List Grammar} {factory : Option Factory}
      {branch : Grammar} : branch ∈ branches → Nullable bindings branch →
      Nullable bindings (.memoized id (.choice branches factory))
  /-- No match is enough. -/
  | repetitionNone {id : ConsumerId} {max : Option Nat} {body : Grammar}
      {factory : Option Factory} :
      Nullable bindings (.memoized id (.repetition 0 max body factory))
  | repetition {id : ConsumerId} {min : Nat} {max : Option Nat} {body : Grammar}
      {factory : Option Factory} : Nullable bindings body →
      Nullable bindings (.memoized id (.repetition min max body factory))
  | lift {id : ConsumerId} {body : Grammar} {factory : Option Factory} :
      Nullable bindings body → Nullable bindings (.memoized id (.lift body factory))
  | join {id : ConsumerId} {joint : String} {body : Grammar} {factory : Option Factory} :
      Nullable bindings body → Nullable bindings (.memoized id (.join joint body factory))
  /-- A lookahead takes nothing, whatever its body takes. -/
  | preserve {id : ConsumerId} {body : Grammar} {factory : Option Factory} :
      Nullable bindings (.memoized id (.preserve body factory))

theorem Grammar.Nullable.token_eq {bindings : Bindings} {token : String}
    {factory : Option Factory} (h : (Grammar.exact token factory).Nullable bindings) :
    token = "" := by
  cases h
  rfl

/-- If nothing of `w` was taken, then `P`. -/
def TakesNothingOnlyIf (P : Prop) (w : Window) {β : Type} :
    Except ParseError (Window × β) → Prop
  | .ok (rest, _) => w.Continues rest ∧ (rest.start = w.start → P)
  | .error _ => True

namespace Production

variable {S : Grammar → Prop} {bindings : Bindings} {factory : Option Factory} {input : Window}
  {P : Prop} {pre : Grammar → Window → Prop} {post : Grammar → Window → Reply → Prop}

theorem planFinish_takes {rest : Window} {nodes : List Node} (hc : input.Continues rest)
    (hP : rest.start = input.start → P) :
    (planFinish factory input rest nodes).Meets pre post
      (Allows (TakesNothingOnlyIf P input)) := by
  rw [planFinish, Plan.meets_check, allows_mapError]
  intro r hr
  obtain ⟨a, -, ha⟩ := bind_eq_ok.mp hr
  cases ha
  exact ⟨hc, hP⟩

/-- While nothing has been taken, the parts behind the cursor decide. -/
theorem planParts_takes : ∀ {parts : List Grammar} {cursor : Window} {nodes : List Node},
    (∀ g ∈ parts, S g) → input.Continues cursor →
    (cursor.start = input.start → (∀ g ∈ parts, g.Nullable bindings) → P) →
    (planParts factory input parts cursor nodes).Meets (fun g _ => S g)
      (fun g w reply => TakesNothingOnlyIf (g.Nullable bindings) w reply)
      (Allows (TakesNothingOnlyIf P input))
  | [], cursor, nodes, _, hc, hP => planFinish_takes hc fun hstart => hP hstart nofun
  | part :: parts, cursor, nodes, hS, hc, hP => by
    refine ⟨hS part (.head _), fun reply hr => ?_⟩
    rcases reply with e | ⟨rest, more⟩
    · trivial
    · obtain ⟨hrest, hnull⟩ := hr
      refine planParts_takes (fun g hg => hS g (.tail _ hg)) (hc.trans hrest) ?_
      intro hstart hparts
      have hle := hc.start_le
      have hle' := hrest.start_le
      have hpart : part.Nullable bindings := hnull (by omega)
      refine hP (by omega) fun g hg => ?_
      cases hg with
      | head => exact hpart
      | tail _ hg => exact hparts g hg

theorem planBranches_takes : ∀ {branches : List Grammar}, (∀ g ∈ branches, S g) →
    (∀ g ∈ branches, g.Nullable bindings → P) →
    (planBranches factory input branches).Meets (fun g _ => S g)
      (fun g w reply => TakesNothingOnlyIf (g.Nullable bindings) w reply)
      (Allows (TakesNothingOnlyIf P input))
  | [], _, _ => trivial
  | branch :: branches, hS, hP => by
    refine ⟨hS branch (.head _), fun reply hr => ?_⟩
    rcases reply with e | ⟨rest, nodes⟩
    · dsimp only
      split
      · exact planBranches_takes (fun g hg => hS g (.tail _ hg)) fun g hg => hP g (.tail _ hg)
      · trivial
    · exact planFinish_takes hr.1 fun hstart => hP branch (.head _) (hr.2 hstart)

theorem planFinishRepetition_takes {min count : Nat} {cursor : Window} {nodes : List Node}
    (hc : input.Continues cursor) (hP : min ≤ count → cursor.start = input.start → P) :
    (planFinishRepetition min factory input cursor count nodes).Meets pre post
      (Allows (TakesNothingOnlyIf P input)) := by
  rw [planFinishRepetition]
  by_cases hcount : count < min
  · rw [if_pos hcount]
    trivial
  · rw [if_neg hcount]
    exact planFinish_takes hc (hP (by omega))

/-- Once there was a match, the body took nothing where the cursor has not moved. -/
theorem planMatches_takes {min : Nat} {max : Option Nat} {body : Grammar} (hS : S body)
    (hmin : min = 0 → P) (hbody : body.Nullable bindings → P) :
    ∀ {left count : Nat} {cursor : Window} {nodes : List Node}, input.Continues cursor →
    (0 < count → cursor.start = input.start → P) →
    (planMatches min max body factory input left count cursor nodes).Meets (fun g _ => S g)
      (fun g w reply => TakesNothingOnlyIf (g.Nullable bindings) w reply)
      (Allows (TakesNothingOnlyIf P input))
  | 0, count, cursor, nodes, hc, hP => by
    rw [planMatches]
    split
    · refine planFinishRepetition_takes hc fun hcount hstart => ?_
      by_cases h0 : count = 0
      · exact hmin (by omega)
      · exact hP (by omega) hstart
    · exact allows_error
  | left + 1, count, cursor, nodes, hc, hP => by
    refine ⟨hS, fun reply hr => ?_⟩
    rcases reply with e | ⟨rest, more⟩
    · dsimp only
      split
      · refine planFinishRepetition_takes hc fun hcount hstart => ?_
        by_cases h0 : count = 0
        · exact hmin (by omega)
        · exact hP (by omega) hstart
      · trivial
    · obtain ⟨hrest, hnull⟩ := hr
      have hmoved : rest.start = input.start → P := by
        intro hstart
        have hle := hc.start_le
        have hle' := hrest.start_le
        exact hbody (hnull (by omega))
      dsimp only
      cases addPosition count 1 with
      | error v => exact allows_error
      | ok count' =>
        simp only [Plan.check_ok, Plan.answer_andThen]
        split
        · exact planFinishRepetition_takes (hc.trans hrest) fun _ => hmoved
        · exact planMatches_takes hS hmin hbody (hc.trans hrest) fun _ => hmoved

/-- A production takes nothing only where its form says so. -/
theorem plan_takes (id : ConsumerId) (production : Production) (input : Window)
    (hS : ∀ g ∈ production.parts, S g) :
    (production.plan input).Meets (fun g _ => S g)
      (fun g w reply => TakesNothingOnlyIf (g.Nullable bindings) w reply)
      (Allows (TakesNothingOnlyIf ((Grammar.memoized id production).Nullable bindings) input)) := by
  cases production with
  | sequence parts factory => exact planParts_takes hS (.refl input) fun _ => .sequence
  | choice branches factory => exact planBranches_takes hS fun g hg => .choice hg
  | repetition min max body factory =>
    refine planMatches_takes (hS body (.head _)) ?_ .repetition (.refl input) (by omega)
    rintro rfl
    exact .repetitionNone
  | lift body factory =>
    refine ⟨hS body (.head _), fun reply hr => ?_⟩
    rcases reply with e | ⟨rest, nodes⟩
    · trivial
    · exact planFinish_takes hr.1 fun hstart => .lift (hr.2 hstart)
  | join joint body factory =>
    refine ⟨hS body (.head _), fun reply hr => ?_⟩
    rcases reply with e | ⟨rest, nodes⟩
    · trivial
    · dsimp only [planJoined]
      rw [Plan.meets_check, allows_mapError]
      intro r hr'
      obtain ⟨a, -, ha⟩ := bind_eq_ok.mp hr'
      cases ha
      exact ⟨hr.1, fun hstart => .join (hr.2 hstart)⟩
  | preserve body factory =>
    refine ⟨hS body (.head _), fun reply hr => ?_⟩
    rcases reply with e | ⟨rest, nodes⟩
    · trivial
    · dsimp only [planPreserved]
      rw [Plan.meets_check, allows_mapError]
      intro r hr'
      obtain ⟨a, -, ha⟩ := bind_eq_ok.mp hr'
      cases ha
      exact ⟨.refl input, fun _ => .preserve⟩

end Production

namespace Grammar

variable {bindings : Bindings}

/-- A leaf takes as many characters as it says. -/
theorem leafReply_takes {P : Prop} {input : Window} {count stop : Nat} {value : String}
    {factory : Option Factory} {reply : Reply} (hs : addPosition input.start count = .ok stop)
    (hP : count = 0 → P) (h : leafReply input stop value factory = .ok reply) :
    TakesNothingOnlyIf P input reply := by
  have hstop : stop = input.start + count := addPosition_eq_ok hs
  have hfits := leafReply_fits hs h
  rw [leafReply] at h
  obtain ⟨rest, hrest, h⟩ := bind_eq_ok.mp h
  obtain ⟨a, -, h⟩ := bind_eq_ok.mp h
  cases h
  refine ⟨hfits, fun hstart => hP ?_⟩
  have := (Window.narrow_eq_ok hrest).2.1
  omega

theorem exactReply_takes {token : String} {factory : Option Factory} {input : Window}
    {reply : Reply} (h : exactReply token factory input = .ok reply) :
    TakesNothingOnlyIf ((exact token factory).Nullable bindings) input reply := by
  rw [exactReply] at h
  split at h
  · obtain ⟨stop, hs, h⟩ := bind_eq_ok.mp h
    refine leafReply_takes hs (fun hlength => ?_) h
    obtain rfl : token = "" := String.length_eq_zero_iff.mp hlength
    exact .exact
  · cases h
    trivial

theorem charRunReply_takes {min : Nat} {max : Option Nat} {cls : CharClass}
    {factory : Option Factory} {input : Window} {reply : Reply}
    (h : charRunReply min max cls factory input = .ok reply) :
    TakesNothingOnlyIf ((charRun min max cls factory).Nullable bindings) input reply := by
  rw [charRunReply] at h
  split at h
  · cases h
    trivial
  · obtain ⟨text, -, h⟩ := bind_eq_ok.mp h
    obtain ⟨stop, hs, h⟩ := bind_eq_ok.mp h
    refine leafReply_takes hs (fun hcount => ?_) h
    obtain rfl : min = 0 := by omega
    exact .charRun

theorem replacedReply_takes {P : Prop} {translator : Translator} {input rest : Window}
    {nodes : List Node} {reply : Reply} (hc : input.Continues rest)
    (hP : rest.start = input.start → P)
    (h : replacedReply translator input rest nodes = .ok reply) :
    TakesNothingOnlyIf P input reply := by
  match nodes with
  | [node] =>
    rw [replacedReply] at h
    split at h
    all_goals
      obtain ⟨text, -, h⟩ := bind_eq_ok.mp h
      cases h
      exact ⟨hc, hP⟩
  | [] => cases h; trivial
  | _ :: _ :: _ => cases h; trivial

/-- A combinator takes nothing only where its form says so. -/
theorem plan_takes {S : Grammar → Prop} {g : Grammar} (hg : g.isCombinator)
    (hS : ∀ g', g.Mentions bindings g' → S g') (input : Window) :
    (g.plan bindings input).Meets (fun g' _ => S g')
      (fun g' w reply => TakesNothingOnlyIf (g'.Nullable bindings) w reply)
      (Allows (TakesNothingOnlyIf (g.Nullable bindings) input)) := by
  cases g with
  | exact token factory => exact allows_mapError.mpr fun _ => exactReply_takes
  | charRun min max cls factory => exact allows_mapError.mpr fun _ => charRunReply_takes
  | endOfInput =>
    rw [plan, Plan.meets_answer, endReply]
    split
    · exact ⟨.refl input, fun _ => .endOfInput⟩
    · trivial
  | skip body =>
    refine ⟨hS body (.inl (.head _)), fun reply hr => ?_⟩
    rcases reply with e | ⟨rest, nodes⟩
    · trivial
    · exact ⟨hr.1, fun hstart => .skip (hr.2 hstart)⟩
  | require body =>
    refine ⟨hS body (.inl (.head _)), fun reply hr => ?_⟩
    rcases reply with e | ⟨rest, nodes⟩
    · trivial
    · exact ⟨hr.1, fun hstart => .require (hr.2 hstart)⟩
  | group name body =>
    refine ⟨hS body (.inl (.head _)), fun reply hr => ?_⟩
    rcases reply with e | ⟨rest, nodes⟩
    · trivial
    · exact ⟨hr.1, fun hstart => .group (hr.2 hstart)⟩
  | replace translator body =>
    refine ⟨hS body (.inl (.head _)), fun reply hr => ?_⟩
    rcases reply with e | ⟨rest, nodes⟩
    · trivial
    · exact allows_mapError.mpr fun _ =>
        replacedReply_takes hr.1 fun hstart => .replace (hr.2 hstart)
  | reference name =>
    rw [plan]
    cases ht : bindings.target? name with
    | none => trivial
    | some target =>
      refine ⟨hS target (.inr ⟨name, rfl, ht⟩), fun reply hr => ?_⟩
      rcases reply with e | ⟨rest, nodes⟩
      · trivial
      · exact ⟨hr.1, fun hstart => .reference ht (hr.2 hstart)⟩
  | memoized id production =>
    refine (Production.plan_takes id production input fun g hg => hS g (.inl hg)).andThen ?_
      fun _ _ => allows_error
    rintro (e | ⟨rest, me⟩) hr
    · trivial
    · rw [Production.planApplied, Plan.meets_check, allows_mapError]
      intro reply hreply
      obtain ⟨nodes, -, rfl⟩ := map_eq_ok.mp hreply
      exact hr
  | windowed size body =>
    rw [plan]
    cases hn : input.narrow input.start (input.start + min size input.length) with
    | error v => exact allows_error
    | ok inner =>
      refine ⟨hS body (.inl (.head _)), fun reply hr => ?_⟩
      rcases reply with e | ⟨rest, nodes⟩
      · trivial
      · refine allows_mapError.mpr fun reply hreply => ?_
        obtain ⟨rest', ha, rfl⟩ := map_eq_ok.mp hreply
        have hinner := (Window.narrow_eq_ok hn).2.1
        have hrest := (Window.narrow_eq_ok ha).2.1
        have hle := hr.1.start_le
        refine ⟨Window.continues_of_advance ha (by omega), fun hstart => ?_⟩
        exact .windowed (hr.2 (by omega))
  | counted name body => cases hg
  | once flag first later => cases hg
  | fail error => cases hg

end Grammar

namespace Repertoire

variable {bindings : Bindings} {S : Grammar → Prop} (h : Repertoire bindings S)
include h

/-- What a member can match without taking anything settles so somewhere. -/
theorem canMatchEmpty_iff {g : Grammar} (hg : S g) :
    g.CanMatchEmpty bindings ↔ ∃ w rest nodes,
      Settles bindings (g.plan bindings w) (.ok (.ok (rest, nodes))) ∧ rest.start = w.start := by
  have hplain : Repertoire (Environment.mk bindings false).bindings S := h
  constructor
  · rintro ⟨w, o, rest, ha, ho, hstart⟩
    have hv : Session.Valid ⟨bindings, false⟩ S w.buffer {} := nofun
    obtain ⟨r, hr, -, hs⟩ := (hplain.answers_iff_settles hg rfl hv).mp ha
    rcases r with e | e | ⟨rest', nodes⟩
    · cases hr
    · cases hr
      cases ho
    · cases hr
      cases ho
      exact ⟨w, rest, nodes, hs, hstart⟩
  · rintro ⟨w, rest, nodes, hs, hstart⟩
    have hv : Session.Valid ⟨bindings, false⟩ S w.buffer {} := nofun
    refine ⟨w, ⟨.ok rest, .extend .empty nodes⟩, rest, ?_, rfl, hstart⟩
    exact (hplain.answers_iff_settles hg rfl hv).mpr ⟨.ok (.ok (rest, nodes)), rfl, nofun, hs⟩

/-- **What can match nothing is nullable.** -/
theorem nullable_of_canMatchEmpty {g : Grammar} (hg : S g) (hempty : g.CanMatchEmpty bindings) :
    g.Nullable bindings := by
  obtain ⟨w, rest, nodes, hs, hstart⟩ := (h.canMatchEmpty_iff hg).mp hempty
  have hplan : ∀ (g : Grammar) (w : Window), S g →
      (g.plan bindings w).Meets (fun g _ => S g)
        (fun g w reply => TakesNothingOnlyIf (g.Nullable bindings) w reply)
        (Allows (TakesNothingOnlyIf (g.Nullable bindings) w)) :=
    fun g w hg => g.plan_takes (h.isCombinator g hg) (fun g' => h.closed g g' hg) w
  exact (hs.meets hplan (hplan g w hg) fun _ => allows_error).2 hstart

end Repertoire

end Packrat
