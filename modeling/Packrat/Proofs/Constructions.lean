import Packrat.Grammar.Build
import Packrat.Proofs.Repertoire

/-! # What building makes

Every memoizing consumer draws its identity from one counter of the whole process when it is built,
by whatever function, and so does every copy with another factory.  `Build.Draws` lists the
consumers that a building makes on the way.

`Grammar.MadeOf` says what a grammar is made of.  What comes out of a construction is made of the
grammars that it was given, of the consumers that it has listed, and of combinators that store
nothing (`Construction.exists_draws`).
-/
namespace Packrat

/-- A memoizing consumer: its identity, and what it produces. -/
structure Memoizer where
  id : ConsumerId
  production : Production

/-- A building takes a supply to a result and a supply, and makes these memoizing consumers on the
way, in order. -/
inductive Build.Draws : {α : Type} → Build α → Supply → Except Violation α → Supply →
    List Memoizer → Prop
  | pure {α : Type} (a : α) (s : Supply) : Draws (pure a : Build α) s (.ok a) s []
  | throw {α : Type} (v : Violation) (s : Supply) : Draws (throw v : Build α) s (.error v) s []
  | memoize (production : Production) (s : Supply) :
      Draws (Grammar.memoize production) s (.ok (.memoized ⟨s.nextConsumer⟩ production))
        { s with nextConsumer := s.nextConsumer + 1 } [⟨⟨s.nextConsumer⟩, production⟩]
  | bind {α β : Type} {x : Build α} {f : α → Build β} {s s₁ s' : Supply} {a : α}
      {r : Except Violation β} {made made' : List Memoizer} :
      Draws x s (.ok a) s₁ made → Draws (f a) s₁ r s' made' →
      Draws (x >>= f) s r s' (made ++ made')
  | stop {α β : Type} {x : Build α} {f : α → Build β} {s s' : Supply} {v : Violation}
      {made : List Memoizer} :
      Draws x s (.error v) s' made → Draws (x >>= f) s (.error v) s' made

/-- What is listed is what happens. -/
theorem Build.Draws.run_eq {α : Type} {x : Build α} {s s' : Supply} {r : Except Violation α}
    {made : List Memoizer} (h : x.Draws s r s' made) : x.run.run s = (r, s') := by
  induction h with
  | pure a s => rfl
  | throw v s => rfl
  | memoize production s => rfl
  | bind _ _ ih ih' =>
    rw [run_bind, ih]
    exact ih'
  | stop _ ih => rw [run_bind, ih]

/-! ## What a grammar is made of -/

namespace Grammar

/-- What is written in `g` is written in one of `sources`, or it is a combinator that is one of the
consumers `made` if it is memoizing. -/
def MadeOf (sources : List Grammar) (made : List Memoizer) (g : Grammar) : Prop :=
  ∀ rule ∈ g.subgrammars, (∃ source ∈ sources, rule ∈ source.subgrammars) ∨
    rule.isCombinator ∧ ∀ id production, rule = .memoized id production → ⟨id, production⟩ ∈ made

variable {sources : List Grammar} {made made' : List Memoizer} {g body : Grammar}

theorem MadeOf.of_mem (h : g ∈ sources) : g.MadeOf sources made :=
  fun _ hrule => .inl ⟨g, h, hrule⟩

theorem MadeOf.mono (h : g.MadeOf sources made) (hsubset : made ⊆ made') :
    g.MadeOf sources made' :=
  fun rule hrule => (h rule hrule).imp_right fun ⟨hcombinator, hmade⟩ =>
    ⟨hcombinator, fun id production heq => hsubset (hmade id production heq)⟩

/-- A combinator is made of what its parts are made of. -/
theorem MadeOf.of_parts (hcombinator : g.isCombinator)
    (hmade : ∀ id production, g = .memoized id production → ⟨id, production⟩ ∈ made)
    (hparts : ∀ part ∈ g.parts, part.MadeOf sources made) : g.MadeOf sources made := by
  intro rule hrule
  rcases mem_subgrammars.mp hrule with rfl | ⟨part, hpart, hrule⟩
  · exact .inr ⟨hcombinator, hmade⟩
  · exact hparts part hpart rule hrule

/-- What is made of grammars that were made earlier. -/
theorem MadeOf.of_sources {earlier : List Grammar} (h : g.MadeOf earlier made')
    (hearlier : ∀ source ∈ earlier, source.MadeOf sources made) :
    g.MadeOf sources (made ++ made') := by
  intro rule hrule
  rcases h rule hrule with ⟨source, hsource, hrule⟩ | ⟨hcombinator, hmade⟩
  · exact (hearlier source hsource).mono (List.subset_append_left _ _) rule hrule
  · exact .inr ⟨hcombinator, fun id production heq => List.mem_append_right _ (hmade _ _ heq)⟩

/-- What is made of nothing but consumers is written in combinators and these. -/
theorem MadeOf.written {rule : Grammar} (h : g.MadeOf [] made) (hrule : rule ∈ g.subgrammars) :
    rule.isCombinator ∧ ∀ id production, rule = .memoized id production → ⟨id, production⟩ ∈ made :=
  (h rule hrule).resolve_left nofun

theorem madeOf_exact (token : String) (factory : Option Factory) :
    (exact token factory).MadeOf sources made :=
  .of_parts rfl nofun (List.forall_mem_nil _)

theorem madeOf_charRun (min : Nat) (max : Option Nat) (cls : CharClass)
    (factory : Option Factory) : (charRun min max cls factory).MadeOf sources made :=
  .of_parts rfl nofun (List.forall_mem_nil _)

theorem madeOf_endOfInput : endOfInput.MadeOf sources made :=
  .of_parts rfl nofun (List.forall_mem_nil _)

theorem MadeOf.skip (h : body.MadeOf sources made) : (skip body).MadeOf sources made :=
  .of_parts rfl nofun (List.forall_mem_singleton.mpr h)

theorem madeOf_skipToken (token : String) : (skipToken token).MadeOf sources made :=
  (madeOf_exact token none).skip

theorem madeOf_ignore (cls : CharClass) : (ignore cls).MadeOf sources made :=
  (madeOf_charRun 0 none cls none).skip

end Grammar

/-! ## Buildings that are tracked -/

namespace Build

/-- Whatever the supply, it can be said which consumers a building makes.  What comes out is made of
`sources`, of the consumers `earlier` and of these. -/
def Tracked (sources : List Grammar) (earlier : List Memoizer) (x : Build Grammar) : Prop :=
  ∀ s, ∃ r s' new, x.Draws s r s' new ∧ ∀ g, r = .ok g → g.MadeOf sources (earlier ++ new)

variable {sources : List Grammar} {earlier : List Memoizer} {x : Build Grammar}
  {f : Grammar → Build Grammar} {production : Production} {g body item delimiter : Grammar}
  {parts branches : List Grammar}

theorem tracked_pure (h : g.MadeOf sources earlier) : Tracked sources earlier (pure g) := by
  intro s
  refine ⟨_, _, _, .pure g s, ?_⟩
  rintro _ ⟨⟩
  rwa [List.append_nil]

theorem tracked_throw (v : Violation) : Tracked sources earlier (throw v) :=
  fun s => ⟨_, _, _, .throw v s, nofun⟩

theorem tracked_memoize (hparts : ∀ part ∈ production.parts, part.MadeOf sources earlier) :
    Tracked sources earlier (Grammar.memoize production) := by
  intro s
  refine ⟨_, _, _, .memoize production s, ?_⟩
  rintro _ ⟨⟩
  refine .of_parts rfl ?_ fun part hpart => (hparts part hpart).mono (List.subset_append_left _ _)
  rintro _ _ ⟨⟩
  exact List.mem_append_right _ (.head _)

/-- What is built second may be made of what was built first. -/
theorem Tracked.bind (hx : Tracked sources earlier x)
    (hf : ∀ g later, earlier ⊆ later → g.MadeOf sources later → Tracked sources later (f g)) :
    Tracked sources earlier (x >>= f) := by
  intro s
  obtain ⟨v | g, s₁, new, hx, hmade⟩ := hx s
  · exact ⟨_, _, _, .stop hx, nofun⟩
  · obtain ⟨r, s', new', hdraws, hmade'⟩ :=
      hf g (earlier ++ new) (List.subset_append_left _ _) (hmade g rfl) s₁
    rw [List.append_assoc] at hmade'
    exact ⟨r, s', new ++ new', .bind hx hdraws, hmade'⟩

theorem tracked_choice (hbranches : ∀ branch ∈ branches, branch.MadeOf sources earlier) :
    Tracked sources earlier (Grammar.choice branches) := by
  rw [Grammar.choice]
  split
  · exact tracked_throw _
  · exact tracked_memoize hbranches

theorem tracked_lifted (hbody : body.MadeOf sources earlier) :
    Tracked sources earlier (Grammar.lifted body) :=
  tracked_memoize (List.forall_mem_singleton.mpr hbody)

/-- The lift of what was built before. -/
theorem Tracked.lifted (hx : Tracked sources earlier x) :
    Tracked sources earlier (x >>= Grammar.lifted) :=
  hx.bind fun _ _ _ hbody => tracked_lifted hbody

theorem tracked_liftedSequence (hparts : ∀ part ∈ parts, part.MadeOf sources earlier) :
    Tracked sources earlier (Grammar.liftedSequence parts) :=
  Tracked.lifted (tracked_memoize hparts)

theorem tracked_liftedRepetition (min : Nat) (max : Option Nat)
    (hbody : body.MadeOf sources earlier) :
    Tracked sources earlier (Grammar.liftedRepetition min max body) :=
  Tracked.lifted (tracked_memoize (List.forall_mem_singleton.mpr hbody))

theorem tracked_between (left right : String) (hitem : item.MadeOf sources earlier) :
    Tracked sources earlier (Grammar.between left item right) :=
  tracked_memoize (by
    simp [Production.parts, Grammar.madeOf_skipToken, hitem])

theorem tracked_delimited (min : Nat) (hitem : item.MadeOf sources earlier)
    (hdelimiter : delimiter.MadeOf sources earlier) :
    Tracked sources earlier (Grammar.delimited min item delimiter) := by
  have hpair : ∀ part ∈ [delimiter, item], part.MadeOf sources earlier := by
    simp [hitem, hdelimiter]
  refine (tracked_liftedSequence hpair).bind fun tail later hlater htail => ?_
  cases min with
  | zero =>
    refine (tracked_liftedRepetition 0 none htail).bind fun tails later' hlater' htails => ?_
    have hitem' : item.MadeOf sources later' := hitem.mono (List.Subset.trans hlater hlater')
    refine (tracked_liftedSequence (by simp [hitem', htails])).bind fun list _ _ hlist => ?_
    refine (tracked_liftedRepetition 0 (some 1) hlist).bind fun lists _ _ hlists => ?_
    exact tracked_memoize (List.forall_mem_singleton.mpr hlists)
  | succ min =>
    refine (tracked_liftedRepetition min none htail).bind fun tails later' hlater' htails => ?_
    have hitem' : item.MadeOf sources later' := hitem.mono (List.Subset.trans hlater hlater')
    exact tracked_memoize (by simp [Production.parts, hitem', htails])

end Build

/-! ## Constructions -/

/-- A call of one of the functions that build grammars, on grammars that were built before. -/
inductive Construction where
  | sequence (parts : List Grammar)
  | choice (branches : List Grammar)
  | repetition (min : Nat) (max : Option Nat) (body : Grammar)
  | optional (body : Grammar)
  | lifted (body : Grammar)
  | joinedWith (joint : String) (body : Grammar)
  | joined (body : Grammar)
  | preserved (body : Grammar)
  | liftedSequence (parts : List Grammar)
  | liftedChoice (branches : List Grammar)
  | liftedRepetition (min : Nat) (max : Option Nat) (body : Grammar)
  | liftedOptional (body : Grammar)
  | oneOf (tokens : List String)
  | peek (body : Grammar)
  | stripWith (body : Grammar) (cls : CharClass)
  | strip (body : Grammar)
  | terminal (body : Grammar)
  | between (left : String) (item : Grammar) (right : String)
  | liftedBetween (left : String) (item : Grammar) (right : String)
  | delimited (min : Nat) (item delimiter : Grammar)
  | delimitedBy (min : Nat) (item : Grammar) (token : String)
  | attach (factory : Factory) (g : Grammar)

namespace Construction

/-- The building that a construction is. -/
def build : Construction → Build (Option Grammar)
  | sequence parts => some <$> Grammar.sequence parts
  | choice branches => some <$> Grammar.choice branches
  | repetition min max body => some <$> Grammar.repetition min max body
  | optional body => some <$> Grammar.optional body
  | lifted body => some <$> Grammar.lifted body
  | joinedWith joint body => some <$> Grammar.joinedWith joint body
  | joined body => some <$> Grammar.joined body
  | preserved body => some <$> Grammar.preserved body
  | liftedSequence parts => some <$> Grammar.liftedSequence parts
  | liftedChoice branches => some <$> Grammar.liftedChoice branches
  | liftedRepetition min max body => some <$> Grammar.liftedRepetition min max body
  | liftedOptional body => some <$> Grammar.liftedOptional body
  | oneOf tokens => some <$> Grammar.oneOf tokens
  | peek body => some <$> Grammar.peek body
  | stripWith body cls => some <$> Grammar.stripWith body cls
  | strip body => some <$> Grammar.strip body
  | terminal body => some <$> Grammar.terminal body
  | between left item right => some <$> Grammar.between left item right
  | liftedBetween left item right => some <$> Grammar.liftedBetween left item right
  | delimited min item delimiter => some <$> Grammar.delimited min item delimiter
  | delimitedBy min item token => some <$> Grammar.delimitedBy min item token
  | attach factory g => g.attach? factory

/-- The grammars that a construction is given. -/
def sources : Construction → List Grammar
  | sequence parts | liftedSequence parts => parts
  | choice branches | liftedChoice branches => branches
  | repetition _ _ body | optional body | lifted body | joinedWith _ body | joined body
  | preserved body | liftedRepetition _ _ body | liftedOptional body | peek body
  | stripWith body _ | strip body | terminal body => [body]
  | oneOf _ => []
  | between _ item _ | liftedBetween _ item _ | delimitedBy _ item _ => [item]
  | delimited _ item delimiter => [item, delimiter]
  | attach _ g => [g]

open Build Grammar

theorem exists_draws_of_tracked {x : Build Grammar} {sources : List Grammar}
    (hx : Tracked sources [] x) (s : Supply) :
    ∃ r s' new, (some <$> x : Build (Option Grammar)).Draws s r s' new ∧
      ∀ g, r = .ok (some g) → g.MadeOf sources new := by
  rw [map_eq_pure_bind]
  obtain ⟨v | g, s', new, hx, hmade⟩ := hx s
  · exact ⟨_, _, _, .stop hx, nofun⟩
  · refine ⟨_, _, _, .bind hx (.pure _ _), ?_⟩
    rintro _ ⟨⟩
    rw [List.append_nil]
    exact hmade g rfl

/-- A copy with another factory has the parts of the original. -/
theorem exists_draws_attach (factory : Factory) (g : Grammar) (s : Supply) :
    ∃ r s' new, (g.attach? factory).Draws s r s' new ∧
      ∀ copy, r = .ok (some copy) → copy.MadeOf [g] new := by
  cases g with
  | memoized id production =>
    refine exists_draws_of_tracked (tracked_memoize fun part hpart rule hrule => ?_) s
    rw [Production.parts_withFactory] at hpart
    have hwritten : rule ∈ (memoized id production).subgrammars :=
      mem_subgrammars.mpr (.inr ⟨part, hpart, hrule⟩)
    exact .inl ⟨memoized id production, .head _, hwritten⟩
  | exact token _ =>
    refine ⟨_, _, _, .pure _ s, ?_⟩
    rintro _ ⟨⟩
    exact madeOf_exact token _
  | charRun min max cls _ =>
    refine ⟨_, _, _, .pure _ s, ?_⟩
    rintro _ ⟨⟩
    exact madeOf_charRun min max cls _
  | _ => exact ⟨_, _, _, .pure _ s, nofun⟩

/-- **Every construction draws from the counter and nowhere else**, and what comes out of it is made
of its arguments and of the consumers that it makes. -/
theorem exists_draws (c : Construction) (s : Supply) :
    ∃ r s' new, c.build.Draws s r s' new ∧ ∀ g, r = .ok (some g) → g.MadeOf c.sources new := by
  have hbody {body : Grammar} : body.MadeOf [body] [] := .of_mem (.head _)
  cases c with
  | sequence _ | repetition _ _ _ | optional _ | lifted _ | joinedWith _ _ | joined _
  | preserved _ =>
    exact exists_draws_of_tracked (tracked_memoize fun _ => .of_mem) s
  | choice branches => exact exists_draws_of_tracked (tracked_choice fun _ => .of_mem) s
  | liftedSequence parts =>
    exact exists_draws_of_tracked (tracked_liftedSequence fun _ => .of_mem) s
  | liftedChoice branches =>
    exact exists_draws_of_tracked (tracked_choice fun _ => .of_mem).lifted s
  | liftedRepetition _ _ body | liftedOptional body =>
    exact exists_draws_of_tracked (tracked_liftedRepetition _ _ hbody) s
  | oneOf tokens =>
    refine exists_draws_of_tracked (tracked_choice fun branch hbranch => ?_).lifted s
    obtain ⟨token, -, rfl⟩ := List.mem_map.mp hbranch
    exact madeOf_exact token none
  | peek body =>
    refine exists_draws_of_tracked ((tracked_memoize fun _ => .of_mem).bind ?_) s
    exact fun _ _ _ hahead => tracked_pure hahead.skip
  | stripWith body _ | strip body =>
    refine exists_draws_of_tracked (tracked_liftedSequence ?_) s
    simp [sources, madeOf_ignore, hbody]
  | terminal body =>
    refine exists_draws_of_tracked (tracked_liftedSequence ?_) s
    simp [sources, madeOf_endOfInput, hbody]
  | between left item right => exact exists_draws_of_tracked (tracked_between left right hbody) s
  | liftedBetween left item right =>
    refine exists_draws_of_tracked ((tracked_lifted hbody).bind ?_) s
    exact fun _ _ _ => tracked_between left right
  | delimited min item delimiter =>
    have hitem : item.MadeOf [item, delimiter] [] := .of_mem (.head _)
    have hdelimiter : delimiter.MadeOf [item, delimiter] [] := .of_mem (.tail _ (.head _))
    exact exists_draws_of_tracked (tracked_delimited min hitem hdelimiter) s
  | delimitedBy min item token =>
    exact exists_draws_of_tracked (tracked_delimited min hbody (madeOf_skipToken token)) s
  | attach factory g => exact exists_draws_attach factory g s

end Construction
end Packrat
