import Packrat.Proofs.Constructions
import Packrat.Proofs.WriteOnce

/-! # Identities of consumers

A memoizing consumer is known by the number that the counter of the process had when it was built
(`Build.Draws`).  `BuildHistory` lists the consumers of all buildings so far.

The counter has 32 bits and wraps around.  So the consumers of a history are numbered by their
places in it (`BuildHistory.id_eq`), and two of them share an identity exactly if their places
differ by a multiple of `2 ^ 32`.  As long as no more than that many have been built, what a process
has built makes up a repertoire (`Built.repertoire`), and no consumer finds in a table what another
one has stored (`BuildHistory.exists_own_call`).  The next one that is built is taken for the first
one.
-/
namespace Packrat

/-! ## Counting -/

namespace Build

/-- The identities of consumers that are made one after the other. -/
def identities (first : UInt32) (count : Nat) : List ConsumerId :=
  (List.range count).map fun i => ⟨first + .ofNat i⟩

theorem identities_add (first : UInt32) (m n : Nat) :
    identities first (m + n) = identities first m ++ identities (first + .ofNat m) n := by
  rw [identities, List.range_add, List.map_append, List.map_map]
  refine congrArg _ (List.map_congr_left fun i _ => ?_)
  simp [UInt32.add_assoc]

/-- **A building counts on.**  Each consumer that it makes gets the next number. -/
theorem Draws.identities_eq {α : Type} {x : Build α} {s s' : Supply} {r : Except Violation α}
    {made : List Memoizer} (h : x.Draws s r s' made) :
    made.map Memoizer.id = identities s.nextConsumer made.length ∧
      s'.nextConsumer = s.nextConsumer + .ofNat made.length := by
  induction h with
  | pure a s => exact ⟨rfl, (UInt32.add_zero _).symm⟩
  | throw v s => exact ⟨rfl, (UInt32.add_zero _).symm⟩
  | memoize production s => exact ⟨by simp [identities], rfl⟩
  | @bind _ _ _ _ s s₁ s' _ _ made made' _ _ ih ih' =>
    obtain ⟨hids, hnext⟩ := ih
    obtain ⟨hids', hnext'⟩ := ih'
    rw [hnext] at hids' hnext'
    constructor
    · rw [List.map_append, hids, hids', List.length_append, identities_add]
    · rw [hnext', List.length_append, UInt32.ofNat_add, UInt32.add_assoc]
  | stop _ ih => exact ih

end Build

/-! ## Histories -/

/-- The memoizing consumers that the constructions of a process have made so far, in order, and what
the next ones draw from.  A construction may also fail. -/
inductive BuildHistory : Supply → List Memoizer → Prop
  | start : BuildHistory {} []
  | construct {s s' : Supply} {made new : List Memoizer} {r : Except Violation (Option Grammar)}
      (c : Construction) :
      BuildHistory s made → c.build.Draws s r s' new → BuildHistory s' (made ++ new)

namespace BuildHistory

variable {s : Supply} {made : List Memoizer} {m m' : Memoizer} {i j : Nat}

/-- There is always a next construction. -/
theorem goes_on (h : BuildHistory s made) (c : Construction) :
    ∃ r s' new, c.build.Draws s r s' new ∧ BuildHistory s' (made ++ new) := by
  obtain ⟨r, s', new, hdraws, -⟩ := c.exists_draws s
  exact ⟨r, s', new, hdraws, .construct c h hdraws⟩

/-- The counter counts the consumers of the whole history. -/
theorem identities_eq (h : BuildHistory s made) :
    made.map Memoizer.id = Build.identities 1 made.length ∧
      s.nextConsumer = 1 + .ofNat made.length := by
  induction h with
  | start => exact ⟨rfl, rfl⟩
  | construct c _ hdraws ih =>
    obtain ⟨hids, hnext⟩ := ih
    obtain ⟨hids', hnext'⟩ := hdraws.identities_eq
    rw [hnext] at hids' hnext'
    constructor
    · rw [List.map_append, hids, hids', List.length_append, Build.identities_add]
    · rw [hnext', List.length_append, UInt32.ofNat_add, UInt32.add_assoc]

/-- A consumer is numbered by its place. -/
theorem id_eq (h : BuildHistory s made) (hm : made[i]? = some m) : m.id = ⟨.ofNat (i + 1)⟩ := by
  obtain ⟨hi, rfl⟩ := List.getElem?_eq_some_iff.mp hm
  have hid : (made.map Memoizer.id)[i]? = some made[i].id := by
    rw [List.getElem?_map, List.getElem?_eq_getElem hi, Option.map_some]
  rw [h.identities_eq.1, Build.identities, List.getElem?_map, List.getElem?_range hi,
    Option.map_some, Option.some_inj] at hid
  rw [← hid, UInt32.ofNat_add, UInt32.add_comm]
  rfl

theorem id_eq_iff (h : BuildHistory s made) (hm : made[i]? = some m) (hm' : made[j]? = some m') :
    m.id = m'.id ↔ i % UInt32.size = j % UInt32.size := by
  rw [h.id_eq hm, h.id_eq hm', ConsumerId.mk.injEq, ← UInt32.toNat_inj, UInt32.toNat_ofNat',
    UInt32.toNat_ofNat', UInt32.size]
  omega

/-- Among the first `2 ^ 32` consumers none shares its identity with another. -/
theorem eq_of_id_eq (h : BuildHistory s made) (hlength : made.length ≤ UInt32.size)
    (hm : made[i]? = some m) (hm' : made[j]? = some m') (hid : m.id = m'.id) : i = j := by
  obtain ⟨hi, -⟩ := List.getElem?_eq_some_iff.mp hm
  obtain ⟨hj, -⟩ := List.getElem?_eq_some_iff.mp hm'
  have hmod := (h.id_eq_iff hm hm').mp hid
  rwa [Nat.mod_eq_of_lt (by omega), Nat.mod_eq_of_lt (by omega)] at hmod

theorem nodup_ids (h : BuildHistory s made) (hlength : made.length ≤ UInt32.size) :
    (made.map Memoizer.id).Nodup := by
  refine List.pairwise_map.mpr (List.pairwise_iff_getElem.mpr fun i j hi hj hij hid => ?_)
  have hplaces := h.eq_of_id_eq hlength (List.getElem?_eq_getElem hi)
    (List.getElem?_eq_getElem hj) hid
  exact absurd hplaces (Nat.ne_of_lt hij)

/-- **Among the first `2 ^ 32` consumers an identity stands for one production.** -/
theorem production_eq (h : BuildHistory s made) (hlength : made.length ≤ UInt32.size)
    {id : ConsumerId} {production production' : Production} (hm : ⟨id, production⟩ ∈ made)
    (hm' : ⟨id, production'⟩ ∈ made) : production = production' := by
  obtain ⟨i, hi⟩ := List.mem_iff_getElem?.mp hm
  obtain ⟨j, hj⟩ := List.mem_iff_getElem?.mp hm'
  obtain rfl := h.eq_of_id_eq hlength hi hj rfl
  exact congrArg Memoizer.production (Option.some.inj (hi.symm.trans hj))

end BuildHistory

/-! ## What has been built is a repertoire -/

/-- The memoizing consumers that a process has made so far, and the grammars that it has built.  It
writes combinators that store nothing around what it has, and constructs from what it has.  What
comes out of a construction may also be dropped. -/
inductive Built : Supply → List Memoizer → List Grammar → Prop
  | start : Built {} [] []
  | write {s : Supply} {made : List Memoizer} {grammars : List Grammar} {g : Grammar} :
      Built s made grammars → g.isCombinator → (∀ id production, g ≠ .memoized id production) →
      g.parts ⊆ grammars → Built s made (g :: grammars)
  -- Since the counter wraps around, a supply does not tell how many consumers were made.  The list
  -- that counts is one that what comes out is made of; there always is one.
  | construct {s s' : Supply} {made new : List Memoizer} {grammars : List Grammar} {g : Grammar}
      (c : Construction) :
      Built s made grammars → c.sources ⊆ grammars → c.build.Draws s (.ok (some g)) s' new →
      g.MadeOf c.sources new → Built s' (made ++ new) (g :: grammars)
  | drop {s s' : Supply} {made new : List Memoizer} {grammars : List Grammar}
      {r : Except Violation (Option Grammar)} (c : Construction) :
      Built s made grammars → c.build.Draws s r s' new → Built s' (made ++ new) grammars

namespace Built

variable {s : Supply} {made : List Memoizer} {grammars : List Grammar} {g : Grammar}

theorem history (h : Built s made grammars) : BuildHistory s made := by
  induction h with
  | start => exact .start
  | write _ _ _ _ ih => exact ih
  | construct c _ _ hdraws _ ih => exact .construct c ih hdraws
  | drop c _ hdraws ih => exact .construct c ih hdraws

/-- There is always a next construction, from whatever has been built. -/
theorem goes_on (h : Built s made grammars) {c : Construction} (hsources : c.sources ⊆ grammars) :
    ∃ r s' new, c.build.run.run s = (r, s') ∧ Built s' (made ++ new) grammars ∧
      ∀ g, r = .ok (some g) → Built s' (made ++ new) (g :: grammars) := by
  obtain ⟨r, s', new, hdraws, hmade⟩ := c.exists_draws s
  refine ⟨r, s', new, hdraws.run_eq, .drop c h hdraws, ?_⟩
  rintro g rfl
  exact .construct c h hsources hdraws (hmade g rfl)

/-- What has been built is made of combinators and of the consumers that have been made. -/
theorem madeOf (h : Built s made grammars) (hg : g ∈ grammars) : g.MadeOf [] made := by
  induction h generalizing g with
  | start => cases hg
  | write _ hcombinator hstores hparts ih =>
    rcases List.mem_cons.mp hg with rfl | hg
    · exact .of_parts hcombinator (fun id production heq => (hstores id production heq).elim)
        fun part hpart => ih (hparts hpart)
    · exact ih hg
  | construct c _ hsources _ hmade ih =>
    rcases List.mem_cons.mp hg with rfl | hg
    · exact hmade.of_sources fun source hsource => ih (hsources hsource)
    · exact (ih hg).mono (List.subset_append_left _ _)
  | drop c _ _ ih => exact (ih hg).mono (List.subset_append_left _ _)

/-- **What a process has built makes up a repertoire**, as long as it has made no more than `2 ^ 32`
consumers: with all that is written in it, and with the references bound to it. -/
theorem repertoire (h : Built s made grammars) (hlength : made.length ≤ UInt32.size)
    {bindings : Bindings}
    (hbindings : ∀ name g, bindings.target? name = some g → g ∈ grammars) :
    Repertoire bindings fun rule => ∃ g ∈ grammars, rule ∈ g.subgrammars where
  isCombinator := by
    rintro rule ⟨g, hg, hrule⟩
    exact ((h.madeOf hg).written hrule).1
  closed := by
    rintro rule mentioned ⟨g, hg, hrule⟩ (hpart | ⟨name, -, htarget⟩)
    · exact ⟨g, hg, Grammar.mem_subgrammars_of_part g hrule hpart⟩
    · exact ⟨mentioned, hbindings name mentioned htarget, Grammar.self_mem_subgrammars mentioned⟩
  distinct := by
    rintro id production production' ⟨g, hg, hrule⟩ ⟨g', hg', hrule'⟩
    exact h.history.production_eq hlength (((h.madeOf hg).written hrule).2 id production rfl)
      (((h.madeOf hg').written hrule').2 id production' rfl)

end Built

/-! ## Long histories -/

theorem Construction.draws_sequence (parts : List Grammar) (s : Supply) :
    (Construction.sequence parts).build.Draws s
      (.ok (some (.memoized ⟨s.nextConsumer⟩ (.sequence parts none))))
      { s with nextConsumer := s.nextConsumer + 1 }
      [⟨⟨s.nextConsumer⟩, .sequence parts none⟩] := by
  rw [build, map_eq_pure_bind]
  exact .bind (.memoize _ s) (.pure _ _)

/-- After any history sequences of any parts can be built, as many as one likes. -/
theorem BuildHistory.exists_of_sequences {s : Supply} {made : List Memoizer}
    (h : BuildHistory s made) (list : List (List Grammar)) :
    ∃ s' new, BuildHistory s' (made ++ new) ∧
      new.map Memoizer.production = list.map fun parts => .sequence parts none := by
  induction list generalizing s made with
  | nil => exact ⟨s, [], by rwa [List.append_nil], rfl⟩
  | cons parts list ih =>
    have hnext := BuildHistory.construct _ h (Construction.draws_sequence parts s)
    obtain ⟨s', new, hlater, hproductions⟩ := ih hnext
    rw [List.append_assoc] at hlater
    exact ⟨s', _, hlater, by rw [List.map_append, hproductions]; rfl⟩

/-- There are histories of two sequences with any number of others between them. -/
theorem BuildHistory.exists_of_between (a b : List Grammar) (n : Nat) :
    ∃ s made, BuildHistory s made ∧ made.length = n + 2 ∧
      (∃ first, made[0]? = some first ∧ first.production = .sequence a none) ∧
      ∃ last, made[n + 1]? = some last ∧ last.production = .sequence b none := by
  obtain ⟨s, made, h, hproductions⟩ :=
    BuildHistory.start.exists_of_sequences (a :: (List.replicate n a ++ [b]))
  have hplace : ∀ i : Nat, made[i]?.map Memoizer.production =
      (a :: (List.replicate n a ++ [b]))[i]?.map fun parts => .sequence parts none := by
    intro i
    rw [← List.getElem?_map, hproductions, List.getElem?_map]
  refine ⟨s, made, h, ?_, ?_, ?_⟩
  · have hlength := congrArg List.length hproductions
    simpa using hlength
  · exact Option.map_eq_some_iff.mp (hplace 0)
  · refine Option.map_eq_some_iff.mp ((hplace (n + 1)).trans ?_)
    simp

/-! ## What is found in a table -/

theorem MemoCall.eq_remember {call : MemoCall} {me : Node}
    (h : call.outcome? = some (.matched me)) : call = .remember call.key me := by
  cases call with
  | remember key result =>
    cases h
    rfl
  | _ => cases h

theorem MemoCall.eq_rememberFailure {call : MemoCall} {e : ParseError}
    (h : call.outcome? = some (.failed e)) : call = .rememberFailure call.key e := by
  cases call with
  | rememberFailure key error =>
    cases h
    rfl
  | _ => cases h

namespace MemoTable

variable {t : MemoTable Node} {key : MemoKey}

/-- What is stored after a history of calls was stored before, or a call for its key has handed it
over. -/
theorem exists_call_of_getElem?_after {calls : List MemoCall} {outcome : MemoEntry Node}
    (h : (t.after calls).entries[key]? = some outcome) :
    t.entries[key]? = some outcome ∨
      ∃ call ∈ calls, call.key = key ∧ call.outcome? = some outcome := by
  induction calls generalizing t with
  | nil => exact .inl h
  | cons call calls ih =>
    rcases ih h with hnext | ⟨call', hmem, hcall'⟩
    · rcases MemoCall.entries_next t call with ⟨hsame, -⟩ | ⟨stored, hstored, hinsert, -⟩
      · exact .inl (hsame ▸ hnext)
      · by_cases hkey : call.key = key
        · rw [hinsert, hkey, Std.HashMap.getElem?_insert_self] at hnext
          exact .inr ⟨call, .head _, hkey, hstored.trans hnext⟩
        · exact .inl ((MemoCall.getElem?_next_of_ne hkey).symm.trans hnext)
    · exact .inr ⟨call', .tail _ hmem, hcall'⟩

theorem getElem?_of_ask_eq_some {me : Node} (h : (t.ask key).1 = .ok (some me)) :
    t.entries[key]? = some (.matched me) := by
  rcases hentry : t.entries[key]? with _ | ⟨other⟩ | ⟨e⟩
  · rw [ask_of_none hentry] at h
    cases h
  · rw [ask_of_matched hentry] at h
    cases h
    rfl
  · rw [ask_of_failed hentry] at h
    cases h

theorem getElem?_of_ask_eq_error {e : ParseError} (h : (t.ask key).1 = .error e) :
    t.entries[key]? = some (.failed e) := by
  rcases hentry : t.entries[key]? with _ | ⟨other⟩ | ⟨e'⟩
  · rw [ask_of_none hentry] at h
    cases h
  · rw [ask_of_matched hentry] at h
    cases h
  · rw [ask_of_failed hentry] at h
    cases h
    rfl

end MemoTable

/-- Calls on a table by consumers of a history, each with the place of its caller. -/
def CallsOf (made : List Memoizer) (calls : List (Nat × MemoCall)) : Prop :=
  ∀ place call, (place, call) ∈ calls → ∃ m, made[place]? = some m ∧ call.key.consumer = m.id

/-- Among the first `2 ^ 32` consumers each one finds what it has handed over itself. -/
theorem BuildHistory.exists_own_call {s : Supply} {made : List Memoizer} (h : BuildHistory s made)
    (hlength : made.length ≤ UInt32.size) {calls : List (Nat × MemoCall)}
    (hcalls : CallsOf made calls) {i : Nat} {m : Memoizer} (hm : made[i]? = some m)
    {key : MemoKey} (hkey : key.consumer = m.id) {outcome : MemoEntry Node}
    (hfound : (MemoTable.empty.after (calls.map Prod.snd)).entries[key]? = some outcome) :
    ∃ call, (i, call) ∈ calls ∧ call.key = key ∧ call.outcome? = some outcome := by
  obtain hempty | ⟨call, hcall, rfl, houtcome⟩ := MemoTable.exists_call_of_getElem?_after hfound
  · simp at hempty
  · obtain ⟨⟨place, call⟩, hmem, rfl⟩ := List.mem_map.mp hcall
    obtain ⟨m', hm', hconsumer⟩ := hcalls place call hmem
    obtain rfl := h.eq_of_id_eq hlength hm hm' (hkey.symm.trans hconsumer)
    exact ⟨call, hmem, rfl, houtcome⟩

/-- **Identities recur after `2 ^ 32` consumers, and not before.**  Any construction can come next.
Two consumers of a history share an identity exactly if their places differ by a multiple of
`2 ^ 32`.  So if there are no more than that many, a consumer that asks a table finds only what it
has handed over itself, whatever the others have stored. -/
theorem identities_recur {s : Supply} {made : List Memoizer} (h : BuildHistory s made) :
    (∀ c : Construction, ∃ r s' new, c.build.Draws s r s' new ∧ BuildHistory s' (made ++ new)) ∧
    (∀ i j m m', made[i]? = some m → made[j]? = some m' →
      (m.id = m'.id ↔ i % UInt32.size = j % UInt32.size)) ∧
    (made.length ≤ UInt32.size →
      (made.map Memoizer.id).Nodup ∧
      ∀ calls, CallsOf made calls → ∀ i m, made[i]? = some m → ∀ start stop,
        let key : MemoKey := ⟨start, stop, m.id⟩
        let found := ((MemoTable.empty.after (calls.map Prod.snd)).ask key).1
        (∀ me, found = .ok (some me) → (i, .remember key me) ∈ calls) ∧
        ∀ e, found = .error e → (i, .rememberFailure key e) ∈ calls) := by
  refine ⟨h.goes_on, fun i j m m' => h.id_eq_iff, fun hlength => ⟨h.nodup_ids hlength, ?_⟩⟩
  intro calls hcalls i m hm start stop key found
  refine ⟨fun me hfound => ?_, fun e hfound => ?_⟩
  · obtain ⟨call, hmem, hkey, houtcome⟩ := h.exists_own_call hlength hcalls hm rfl
      (MemoTable.getElem?_of_ask_eq_some hfound)
    rwa [MemoCall.eq_remember houtcome, hkey] at hmem
  · obtain ⟨call, hmem, hkey, houtcome⟩ := h.exists_own_call hlength hcalls hm rfl
      (MemoTable.getElem?_of_ask_eq_error hfound)
    rwa [MemoCall.eq_rememberFailure houtcome, hkey] at hmem

/-- Two consumers of the first history of a process. -/
theorem identities_recur_first :
    let made : List Memoizer := [⟨⟨1⟩, .sequence [.exact "a" none] none⟩,
      ⟨⟨2⟩, .sequence [.exact "b" none] none⟩]
    let calls : List (Nat × MemoCall) := [(0, .remember ⟨0, 1, ⟨1⟩⟩ (.leaf "a"))]
    BuildHistory ⟨3, 0⟩ made ∧ made.length ≤ UInt32.size ∧ CallsOf made calls ∧
      ∀ me, ((MemoTable.empty.after (calls.map Prod.snd)).ask ⟨0, 1, ⟨2⟩⟩).1 ≠ .ok (some me) := by
  intro made calls
  have h : BuildHistory ⟨3, 0⟩ made :=
    .construct (.sequence [.exact "b" none])
      (.construct (.sequence [.exact "a" none]) .start (Construction.draws_sequence _ _))
      (Construction.draws_sequence _ _)
  have hlength : made.length ≤ UInt32.size := by decide
  have hcalls : CallsOf made calls := by
    rintro place call hcall
    obtain ⟨rfl, rfl⟩ := Prod.mk.inj (List.mem_singleton.mp hcall)
    exact ⟨_, rfl, rfl⟩
  refine ⟨h, hlength, hcalls, fun me hfound => ?_⟩
  have hown := (((identities_recur h).2.2 hlength).2 calls hcalls 1 _ rfl 0 1).1 me hfound
  cases List.mem_singleton.mp hown

/-- After `2 ^ 32` consumers the next one has the identity of the first one, and finds the nodes
that the first one has stored, whatever it would produce itself. -/
theorem identity_shared_after_wrap :
    ∃ s made first last, BuildHistory s made ∧ made.length = UInt32.size + 1 ∧
      made[0]? = some first ∧ made[UInt32.size]? = some last ∧
      first.production = .sequence [.exact "a" none] none ∧
      last.production = .sequence [.exact "b" none] none ∧ first.id = last.id ∧
      ∀ start stop me, ((MemoTable.empty.after [.remember ⟨start, stop, first.id⟩ me]).ask
        ⟨start, stop, last.id⟩).1 = .ok (some me) := by
  obtain ⟨s, made, h, hlength, hfirst, hlast⟩ :=
    BuildHistory.exists_of_between [.exact "a" none] [.exact "b" none] (UInt32.size - 1)
  obtain ⟨first, hfirst, ha⟩ := hfirst
  obtain ⟨last, hlast, hb⟩ := hlast
  have hid : first.id = last.id := (h.id_eq_iff hfirst hlast).mpr rfl
  refine ⟨s, made, first, last, h, hlength, hfirst, hlast, ha, hb, hid, fun start stop me => ?_⟩
  rw [hid, MemoTable.after_cons, MemoTable.after_nil, MemoCall.next,
    MemoTable.keep_of_none (MemoTable.getElem?_empty _)]
  exact congrArg Prod.fst (MemoTable.ask_of_matched Std.HashMap.getElem?_insert_self)

end Packrat
