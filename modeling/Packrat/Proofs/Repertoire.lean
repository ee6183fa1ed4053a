import Mathlib.Logic.Relation
import Packrat.Proofs.Gathering

/-! # Repertoires of combinators

A **repertoire** is a set of grammars that is closed under what its members are made of, references
included, in which an identity stands for one production.  The grammars that a program builds and
the grammars its references are bound to make up such a set, as long as the identities do not run
out (`Built.repertoire`).

Whatever is asked while a combinator consumes a window, the questions look further into that window
and never behind its start, and what is left of the window ends where the window does
(`Grammar.plan_fits`).  A member of a repertoire asks members only (`Repertoire.plan_meets`).
-/
namespace Packrat

/-! ## What grammars mention -/

namespace Grammar

/-- `g.Mentions bindings h`: `h` is a part of `g`, or what the reference `g` stands for. -/
def Mentions (bindings : Bindings) (g h : Grammar) : Prop :=
  h ∈ g.parts ∨ ∃ name, g = reference name ∧ bindings.target? name = some h

/-- `g.Uses bindings h`: `h` is a rule of `g`, that is `g` itself, a part of a rule, or what a
reference among the rules stands for. -/
def Uses (bindings : Bindings) : Grammar → Grammar → Prop :=
  Relation.ReflTransGen (Mentions bindings)

/-- What a grammar uses is written in it or in what is bound. -/
theorem Uses.mem_written {g h : Grammar} (hu : g.Uses bindings h) :
    h ∈ g.subgrammars ++ bindings.flatMap fun binding => binding.2.subgrammars := by
  induction hu with
  | refl => exact List.mem_append_left _ (self_mem_subgrammars g)
  | tail _ hm ih =>
    rcases hm with hpart | ⟨name, rfl, ht⟩
    · rcases List.mem_append.mp ih with ih | ih
      · exact List.mem_append_left _ (mem_subgrammars_of_part g ih hpart)
      · obtain ⟨binding, hb, ih⟩ := List.mem_flatMap.mp ih
        exact List.mem_append_right _
          (List.mem_flatMap.mpr ⟨binding, hb, mem_subgrammars_of_part binding.2 ih hpart⟩)
    · obtain ⟨before, after, rfl, -⟩ := List.lookup_eq_some_iff.mp ht
      refine List.mem_append_right _ (List.mem_flatMap.mpr ⟨(name, _), ?_, self_mem_subgrammars _⟩)
      exact List.mem_append_right _ (.head _)

/-- Whether the grammar shows its part less text. -/
def isWindowed : Grammar → Bool
  | windowed .. => true
  | _ => false

/-- Whether the grammar is put together by a combinator, or shows its part less text. -/
def isCombinator : Grammar → Bool
  | counted .. => false
  | once .. => false
  | fail _ => false
  | _ => true

end Grammar

/-- A set of combinators that is closed under what they mention, with one production for each
identity. -/
structure Repertoire (bindings : Bindings) (S : Grammar → Prop) : Prop where
  isCombinator : ∀ g, S g → g.isCombinator
  closed : ∀ g h, S g → g.Mentions bindings h → S h
  distinct : ∀ id production production',
    S (.memoized id production) → S (.memoized id production') → production = production'

/-! ## Replies that fit a window -/

/-- Whether the error says that a consumer contradicted itself. -/
def ParseError.IsContradiction (e : ParseError) : Prop := ∃ key : MemoKey, e = key.contradiction

/-- `g.Shows input w`: `w` is a window that `g` may show its parts when it consumes `input`. -/
structure Grammar.Shows (g : Grammar) (input w : Window) : Prop where
  encloses : input.Encloses w
  continues : g.isWindowed = false → input.Continues w

/-- The reply leaves the rest of `w`, or an error that is no contradiction. -/
def Reply.Fits (w : Window) : Reply → Prop
  | .ok (rest, _) => w.Continues rest
  | .error e => ¬ e.IsContradiction

/-- The production leaves the rest of `w` and a node that spans what was taken, or an error that is
no contradiction. -/
def Production.Fits (w : Window) : Except ParseError (Window × Node) → Prop
  | .ok (rest, me) => w.Continues rest ∧ me.span = some ⟨w.start, rest.start⟩
  | .error e => ¬ e.IsContradiction

namespace ParseError

variable {e : ParseError}

@[simp] theorem not_isContradiction_mismatch {message : String} {position : Nat}
    {context : Option String} : ¬ (mismatch message position context).IsContradiction :=
  nofun

@[simp] theorem not_isContradiction_noAlternative {position : Nat} {context : Option String} :
    ¬ (noAlternative position context).IsContradiction :=
  nofun

theorem not_isContradiction_withContext (frame : String) (h : ¬ e.IsContradiction) :
    ¬ (e.withContext frame).IsContradiction := by
  cases e <;> first | exact h | nofun

theorem not_isContradiction_escalate (h : ¬ e.IsContradiction) : ¬ e.escalate.IsContradiction := by
  rw [escalate]
  split
  · nofun
  · exact h

/-- The message of a contradiction starts with the letter c. -/
theorem not_isContradiction_inconsistent {message : String} {position : Nat}
    (h : message.toList.head? ≠ some 'c') : ¬ (inconsistent message position).IsContradiction := by
  rintro ⟨key, hkey⟩
  obtain ⟨rfl, -⟩ := inconsistent.inj hkey
  simp at h

end ParseError

/-! ## The traversal -/

namespace Production

/-- The rest of a window, and that an error is no contradiction, are kept by all productions. -/
theorem gathers_fits :
    Gathers (fun w rest _ => w.Continues rest) fun _ e => ¬ e.IsContradiction where
  nil w := .refl w
  append h h' := h.trans h'
  continues h := h
  later _ he := he
  mismatch _ _ := ParseError.not_isContradiction_mismatch
  noAlternative _ := ParseError.not_isContradiction_noAlternative
  context frame he := ParseError.not_isContradiction_withContext frame he

/-- A finished node spans what was taken. -/
theorem finished_fits (production : Production) {input rest : Window} (h : input.Continues rest)
    (nodes : List Node) (attachment : Option Attachment) :
    Fits input (.ok (production.finished input rest nodes attachment)) := by
  cases production with
  | preserve body factory =>
    -- A lookahead leaves the whole window, and a node that spans nothing.
    exact ⟨.refl input, rfl⟩
  | _ => exact ⟨h, rfl⟩

/-- A production asks its parts, further on in its window. -/
theorem plan_fits (production : Production) (input : Window) :
    (production.plan input).Meets (fun g w => g ∈ production.parts ∧ input.Continues w)
      (fun _ w reply => reply.Fits w) (Allows (Fits input)) := by
  have hpost : ∀ g ∈ production.parts, ∀ (w : Window) (reply : Reply), reply.Fits w →
      reply.Gathered (fun w rest _ => w.Continues rest) (fun _ e => ¬ e.IsContradiction) w := by
    rintro g - w (e | ⟨rest, nodes⟩) hr <;> exact hr
  have ht : Tolerates (fun _ => True) production.factory? := fun _ _ _ _ _ _ => trivial
  refine (production.plan_gathers gathers_fits input hpost ht trivial (.inr trivial)).mono
    (fun _ _ h => h) (fun _ _ _ _ h => h) fun r hr => ?_
  rcases r with halt | e | made
  · trivial
  · exact hr
  · obtain ⟨rest, nodes, attachment, rfl, hc⟩ := hr
    exact production.finished_fits hc nodes attachment

end Production

namespace Grammar

variable {bindings : Bindings}

theorem leafReply_fits {input : Window} {count stop : Nat} {value : String}
    {factory : Option Factory} {reply : Reply} (hs : addPosition input.start count = .ok stop)
    (h : leafReply input stop value factory = .ok reply) : reply.Fits input := by
  have hle : input.start ≤ stop := addPosition_eq_ok hs ▸ Nat.le_add_right ..
  rw [leafReply] at h
  obtain ⟨rest, hrest, h⟩ := bind_eq_ok.mp h
  obtain ⟨a, -, h⟩ := bind_eq_ok.mp h
  cases h
  exact Window.continues_of_advance hrest hle

theorem exactReply_fits {token : String} {factory : Option Factory} {input : Window}
    {reply : Reply} (h : exactReply token factory input = .ok reply) : reply.Fits input := by
  rw [exactReply] at h
  split at h
  · obtain ⟨stop, hs, h⟩ := bind_eq_ok.mp h
    exact leafReply_fits hs h
  · cases h
    exact ParseError.not_isContradiction_mismatch

theorem charRunReply_fits {min : Nat} {max : Option Nat} {cls : CharClass}
    {factory : Option Factory} {input : Window} {reply : Reply}
    (h : charRunReply min max cls factory input = .ok reply) : reply.Fits input := by
  rw [charRunReply] at h
  split at h
  · cases h
    exact ParseError.not_isContradiction_mismatch
  · obtain ⟨text, -, h⟩ := bind_eq_ok.mp h
    obtain ⟨stop, hs, h⟩ := bind_eq_ok.mp h
    exact leafReply_fits hs h

theorem replacedReply_fits {translator : Translator} {input rest : Window} {nodes : List Node}
    {reply : Reply} (hc : input.Continues rest)
    (h : replacedReply translator input rest nodes = .ok reply) : reply.Fits input := by
  match nodes with
  | [node] =>
    rw [replacedReply] at h
    split at h
    all_goals
      obtain ⟨text, -, h⟩ := bind_eq_ok.mp h
      cases h
      exact hc
  | [] =>
    cases h
    exact ParseError.not_isContradiction_inconsistent (by simp)
  | _ :: _ :: _ =>
    cases h
    exact ParseError.not_isContradiction_inconsistent (by simp)

/-- **A combinator asks what it mentions, further on in its window**, and replies with the rest of
the window or an error that is no contradiction. -/
theorem plan_fits {g : Grammar} (hg : g.isCombinator) (input : Window) :
    (g.plan bindings input).Meets (fun h w => g.Mentions bindings h ∧ g.Shows input w)
      (fun _ w reply => reply.Fits w) (Allows (Reply.Fits input)) := by
  have here : g.Shows input input := ⟨(Window.Continues.refl input).encloses, fun _ => .refl input⟩
  cases g with
  | exact token factory => exact allows_mapError.mpr fun _ => exactReply_fits
  | charRun min max cls factory => exact allows_mapError.mpr fun _ => charRunReply_fits
  | endOfInput =>
    rw [plan, Plan.meets_answer, endReply]
    split
    · exact Window.Continues.refl input
    · exact ParseError.not_isContradiction_mismatch
  | skip body =>
    refine ⟨⟨.inl (.head _), here⟩, fun reply hr => ?_⟩
    rcases reply with e | ⟨rest, nodes⟩ <;> exact hr
  | require body =>
    refine ⟨⟨.inl (.head _), here⟩, fun reply hr => ?_⟩
    rcases reply with e | ⟨rest, nodes⟩
    · exact ParseError.not_isContradiction_escalate hr
    · exact hr
  | group name body =>
    refine ⟨⟨.inl (.head _), here⟩, fun reply hr => ?_⟩
    rcases reply with e | ⟨rest, nodes⟩
    · exact ParseError.not_isContradiction_withContext name hr
    · exact hr
  | replace translator body =>
    refine ⟨⟨.inl (.head _), here⟩, fun reply hr => ?_⟩
    rcases reply with e | ⟨rest, nodes⟩
    · exact hr
    · exact allows_mapError.mpr fun _ => replacedReply_fits hr
  | reference name =>
    rw [plan]
    cases ht : bindings.target? name with
    | none => exact ParseError.not_isContradiction_inconsistent (by simp)
    | some target => exact ⟨⟨.inr ⟨name, rfl, ht⟩, here⟩, fun reply hr => hr⟩
  | memoized id production =>
    refine ((production.plan_fits input).mono (fun g w h => ⟨.inl h.1, h.2.encloses, fun _ => h.2⟩)
      (fun _ _ _ _ h => h) (fun _ h => h)).andThen ?_ fun _ _ => allows_error
    rintro (e | ⟨rest, me⟩) hr
    · exact hr
    · rw [Production.planApplied, Plan.meets_check, allows_mapError]
      intro reply hreply
      obtain ⟨nodes, -, rfl⟩ := map_eq_ok.mp hreply
      exact hr.1
  | windowed size body =>
    rw [plan]
    cases hn : input.narrow input.start (input.start + min size input.length) with
    | error v => exact allows_error
    | ok inner =>
      have hi := Window.encloses_of_narrow hn
      refine ⟨⟨.inl (.head _), hi, nofun⟩, fun reply hr => ?_⟩
      rcases reply with e | ⟨rest, nodes⟩
      · exact hr
      · refine allows_mapError.mpr fun reply hreply => ?_
        obtain ⟨rest', ha, rfl⟩ := map_eq_ok.mp hreply
        exact Window.continues_of_advance ha (Nat.le_trans hi.start_le hr.start_le)
  | counted name body => cases hg
  | once flag first later => cases hg
  | fail error => cases hg

end Grammar

namespace Repertoire

variable {bindings : Bindings} {S : Grammar → Prop} (h : Repertoire bindings S)
include h

/-- The members ask members, on the same text. -/
theorem plan_meets {buffer : Array Char} (g : Grammar) (w : Window)
    (hg : S g ∧ w.buffer = buffer) :
    (g.plan bindings w).Meets (fun g w => S g ∧ w.buffer = buffer) (fun _ w reply => reply.Fits w)
      (Allows (Reply.Fits w)) :=
  (g.plan_fits (h.isCombinator g hg.1) w).mono
    (fun g' _ hm => ⟨h.closed g g' hg.1 hm.1, hm.2.encloses.buffer_eq.trans hg.2⟩)
    (fun _ _ _ _ hr => hr) (fun _ hr => hr)

/-- A member replies with the rest of its window, or with an error that is no contradiction. -/
theorem fits {g : Grammar} (hg : S g) {w : Window} {r : Except Halt Reply}
    (hs : Settles bindings (g.plan bindings w) r) : Allows (Reply.Fits w) r :=
  hs.meets h.plan_meets (h.plan_meets g w ⟨hg, rfl⟩) fun _ => allows_error

/-- The production of a member leaves the rest of its window, and a node that spans what was
taken. -/
theorem production_fits {id : ConsumerId} {production : Production}
    (hg : S (.memoized id production)) {w : Window}
    {r : Except Halt (Except ParseError (Window × Node))}
    (hs : Settles bindings (production.plan w) r) : Allows (Production.Fits w) r := by
  have hp : (production.plan w).Meets (fun g w' => S g ∧ w'.buffer = w.buffer)
      (fun _ w reply => reply.Fits w) (Allows (Production.Fits w)) :=
    (production.plan_fits w).mono (fun g w' hm => ⟨h.closed _ g hg (.inl hm.1), hm.2.buffer_eq⟩)
      (fun _ _ _ _ hr => hr) (fun _ hr => hr)
  exact hs.meets h.plan_meets hp fun _ => allows_error

/-- What a member asks. -/
theorem asks {g g' : Grammar} (hg : S g) {w w' : Window}
    (ha : Asks bindings (g.plan bindings w) g' w') :
    g.Mentions bindings g' ∧ g.Shows w w' :=
  ha.allowed h.plan_meets
    (fun g' _ ⟨hm, hw⟩ => ⟨h.closed g g' hg hm, hw.encloses.buffer_eq⟩)
    (g.plan_fits (h.isCombinator g hg) w)

/-- What a member asks belongs to the repertoire, and looks at the same text. -/
theorem asks_members {g g' : Grammar} (hg : S g) {w w' : Window} {buffer : Array Char}
    (hw : w.buffer = buffer) (ha : Asks bindings (g.plan bindings w) g' w') :
    S g' ∧ w'.buffer = buffer := by
  obtain ⟨hm, hshows⟩ := h.asks hg ha
  exact ⟨h.closed g g' hg hm, hshows.encloses.buffer_eq.trans hw⟩

/-- What a member uses are members. -/
theorem uses {g g' : Grammar} (hg : S g) (hu : g.Uses bindings g') : S g' := by
  induction hu with
  | refl => exact hg
  | tail _ hm ih => exact h.closed _ _ ih hm

end Repertoire

/-- A grammar without bound references makes up a repertoire with all that is written in it. -/
theorem Repertoire.of_subgrammars {g : Grammar}
    (hcombinators : ∀ h ∈ g.subgrammars, h.isCombinator)
    (hdistinct : ∀ id production production', .memoized id production ∈ g.subgrammars →
      .memoized id production' ∈ g.subgrammars → production = production') :
    Repertoire [] (· ∈ g.subgrammars) where
  isCombinator := hcombinators
  closed := by
    rintro h part hh (hpart | ⟨name, -, ht⟩)
    · exact Grammar.mem_subgrammars_of_part g hh hpart
    · cases ht
  distinct := hdistinct

/-- The same where no identity is written twice. -/
theorem Repertoire.of_nodup {g : Grammar} (hcombinators : ∀ h ∈ g.subgrammars, h.isCombinator)
    (hnodup : g.consumerIds.Nodup) : Repertoire [] (· ∈ g.subgrammars) := by
  refine .of_subgrammars hcombinators fun id production production' hp hp' => ?_
  rw [Grammar.consumerIds] at hnodup
  generalize g.subgrammars = rules at hp hp' hnodup
  obtain ⟨before, after, rfl⟩ := List.append_of_mem hp
  rw [List.filterMap_append, List.nodup_append] at hnodup
  obtain ⟨-, hlast, hfirst⟩ := hnodup
  rcases List.mem_append.mp hp' with hmem | hmem
  · exact absurd rfl (hfirst id (List.mem_filterMap.mpr ⟨_, hmem, rfl⟩) id (.head _))
  · rcases List.mem_cons.mp hmem with heq | hmem
    · exact (Grammar.memoized.inj heq).2.symm
    · exact ((List.nodup_cons.mp hlast).1 (List.mem_filterMap.mpr ⟨_, hmem, rfl⟩)).elim

/-! ## A small repertoire

Lists of letters that end where the window does: a rule that refers to itself behind a letter, and a
repetition without an upper bound whose body consumes nothing. -/

namespace Letters

/-- A letter and the list behind it. -/
def more : Grammar := .memoized ⟨1⟩ (.sequence [.exact "a" none, .reference "list"] none)

/-- The end of a list. -/
def nil : Grammar := .memoized ⟨2⟩ (.repetition 2 none .endOfInput none)

/-- A list of letters. -/
def list : Grammar := .memoized ⟨3⟩ (.choice [more, nil] none)

def bindings : Bindings := [("list", list)]

theorem eq_of_target {name : String} {g : Grammar} (h : Bindings.target? bindings name = some g) :
    name = "list" ∧ g = list := by
  rw [Bindings.target?, bindings, List.lookup_cons, List.lookup_nil] at h
  split at h
  · exact ⟨eq_of_beq ‹_›, (Option.some.inj h).symm⟩
  · cases h

/-- The lists, what they are made of, and lists of no more than one letter. -/
def grammars : List Grammar :=
  [list, more, nil, .exact "a" none, .reference "list", .endOfInput,
    .windowed 1 (.reference "list")]

theorem repertoire : Repertoire bindings (· ∈ grammars) where
  isCombinator := by
    simp [grammars, list, more, nil, Grammar.isCombinator]
  closed := by
    rintro g h hg (hpart | ⟨name, rfl, ht⟩)
    · simp only [grammars, List.mem_cons, List.not_mem_nil, or_false] at hg
      rcases hg with rfl | rfl | rfl | rfl | rfl | rfl | rfl <;>
        simp [Grammar.parts, Production.parts, list, more, nil] at hpart
      all_goals
        first
        | obtain rfl := hpart
        | obtain rfl | rfl := hpart
        all_goals simp [grammars, list, more, nil]
    · obtain ⟨-, rfl⟩ := eq_of_target ht
      exact .head _
  distinct := by
    intro id production production' h h'
    simp only [grammars, list, more, nil, List.mem_cons, List.not_mem_nil, Grammar.memoized.injEq,
      reduceCtorEq, or_false] at h h'
    grind

end Letters

end Packrat
