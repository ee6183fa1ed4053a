import Packrat.Proofs.MemoTransparency

/-! # Two runs in step

Two plans are **in step** if they ask their questions side by side and are done at the same time,
with results that belong together, as long as the replies to their questions belong together
(`Plan.InStep`).  A `Coupling` says which questions may be asked side by side and which replies
belong together; it is **kept** if the plans of any two grammars that may be asked about side by
side are in step.  Then so are the two runs as a whole: what one of them settles with belongs to
what the other one settles with (`Coupling.Kept.settles`), and with a memo table on either side the
answers belong together (`Coupling.Kept.answers`).

A run may also be broken off on its own, in the ways that the coupling names for its side.  Nothing
is said of the other run then.
-/
namespace Packrat

/-- Two computations agree: `E` holds of their results, or both halt in the same way. -/
def Agree {ε α β : Type} (E : α → β → Prop) : Except ε α → Except ε β → Prop
  | .ok a, .ok b => E a b
  | .error e, .error e' => e = e'
  | _, _ => False

/-- The computation has halted in one of the given ways. -/
def Halted {α : Type} (ways : Halt → Prop) : Except Halt α → Prop
  | .ok _ => False
  | .error h => ways h

/-- What two runs have to do with each other. -/
structure Coupling where
  /-- The questions that may be asked side by side. -/
  asks : Grammar → Window → Grammar → Window → Prop
  /-- The replies that belong together, for what was asked about these windows. -/
  replies : Window → Window → Reply → Reply → Prop
  /-- How the first run may be broken off on its own. -/
  left : Halt → Prop
  /-- How the second run may be broken off on its own. -/
  right : Halt → Prop

/-- The two runs change their places. -/
def Coupling.symm (C : Coupling) : Coupling where
  asks g w g' w' := C.asks g' w' g w
  replies w w' reply reply' := C.replies w' w reply' reply
  left := C.right
  right := C.left

/-- **Plans in step**: they ask side by side and are done at the same time, with results that `E`
holds of or with the same halt, unless one of them is broken off on its own. -/
inductive Plan.InStep (C : Coupling) {α β : Type} (E : α → β → Prop) : Plan α → Plan β → Prop
  | answer {a : α} {b : β} : E a b → InStep C E (.answer a) (.answer b)
  | halt (h : Halt) : InStep C E (.done (.error h)) (.done (.error h))
  | left {h : Halt} {q : Plan β} : C.left h → InStep C E (.done (.error h)) q
  | right {p : Plan α} {h : Halt} : C.right h → InStep C E p (.done (.error h))
  | ask {g g' : Grammar} {w w' : Window} {next : Reply → Plan α} {next' : Reply → Plan β} :
      C.asks g w g' w' →
      (∀ reply reply', C.replies w w' reply reply' → InStep C E (next reply) (next' reply')) →
      InStep C E (.ask g w next) (.ask g' w' next')

/-- The plans of grammars that may be asked about side by side are in step. -/
def Coupling.Kept (C : Coupling) (bindings bindings' : Bindings) : Prop :=
  ∀ g w g' w', C.asks g w g' w' →
    (g.plan bindings w).InStep C (C.replies w w') (g'.plan bindings' w')

section Agreeing

variable {ε α β γ δ : Type}

@[simp] theorem agree_ok {E : α → β → Prop} {a : α} {b : β} :
    Agree E (.ok a : Except ε α) (.ok b) ↔ E a b := .rfl

@[simp] theorem agree_error {E : α → β → Prop} {e e' : ε} :
    Agree E (.error e) (.error e') ↔ e = e' := .rfl

@[simp] theorem halted_error {ways : Halt → Prop} {h : Halt} :
    Halted ways (.error h : Except Halt α) ↔ ways h := .rfl

@[simp] theorem not_halted_ok {ways : Halt → Prop} {a : α} : ¬ Halted ways (.ok a) := nofun

theorem Agree.mono {E F : α → β → Prop} {r : Except ε α} {r' : Except ε β} (h : Agree E r r')
    (hE : ∀ a b, E a b → F a b) : Agree F r r' := by
  rcases r with e | a <;> rcases r' with e' | b
  · exact h
  · cases h
  · cases h
  · exact hE a b h

theorem Agree.symm {E : α → β → Prop} {r : Except ε α} {r' : Except ε β} (h : Agree E r r') :
    Agree (fun b a => E a b) r' r := by
  rcases r with e | a <;> rcases r' with e' | b
  · exact Eq.symm h
  · cases h
  · cases h
  · exact h

theorem Agree.map {E : α → β → Prop} {F : γ → δ → Prop} {r : Except ε α} {r' : Except ε β}
    (h : Agree E r r') {f : α → γ} {f' : β → δ} (hf : ∀ a b, E a b → F (f a) (f' b)) :
    Agree F (r.map f) (r'.map f') := by
  rcases r with e | a <;> rcases r' with e' | b
  · exact h
  · cases h
  · cases h
  · exact hf a b h

theorem Halted.map {ways : Halt → Prop} {r : Except Halt α} (h : Halted ways r) (f : α → β) :
    Halted ways (r.map f) := by
  rcases r with halt | a
  · exact h
  · cases h

end Agreeing

namespace Plan

variable {α γ : Type}

theorem check_bind (x : Except Violation α) (f : α → Except Violation γ) :
    Plan.check (x >>= f) = (Plan.check x).andThen fun a => .check (f a) := by
  cases x <;> rfl

theorem check_map (x : Except Violation α) (f : α → γ) :
    Plan.check (x.map f) = (Plan.check x).andThen fun a => .answer (f a) := by
  cases x <;> rfl

end Plan

namespace Plan.InStep

variable {C : Coupling} {α β γ δ : Type} {E : α → β → Prop} {F : γ → δ → Prop}

theorem symm {p : Plan α} {q : Plan β} (h : p.InStep C E q) :
    q.InStep C.symm (fun b a => E a b) p := by
  induction h with
  | answer hE => exact .answer hE
  | halt h => exact .halt h
  | left hl => exact .right hl
  | right hr => exact .left hr
  | ask hasks _ ih => exact .ask hasks fun reply reply' hr => ih reply' reply hr

/-- Plans in step that go on in step. -/
theorem andThen {p : Plan α} {q : Plan β} {f : α → Plan γ} {f' : β → Plan δ}
    (h : p.InStep C E q) (hf : ∀ a b, E a b → (f a).InStep C F (f' b)) :
    (p.andThen f).InStep C F (q.andThen f') := by
  induction h with
  | answer hE => exact hf _ _ hE
  | halt h => exact .halt h
  | left hl => exact .left hl
  | right hr => exact .right hr
  | ask hasks _ ih => exact .ask hasks ih

/-! ### Checked results -/

/-- The same check on both sides. -/
theorem check_self {E : α → α → Prop} {x : Except Violation α} (hE : ∀ a, x = .ok a → E a a) :
    (Plan.check x).InStep C E (.check x) := by
  cases x with
  | ok a => exact .answer (hE a rfl)
  | error v => exact .halt _

/-- Two checks that may break off on their own. -/
theorem check_of_tolerated {x : Except Violation α} {y : Except Violation β}
    (hleft : ∀ v, x = .error v → C.left (.violation v))
    (hright : ∀ v, y = .error v → C.right (.violation v))
    (hE : ∀ a b, x = .ok a → y = .ok b → E a b) : (Plan.check x).InStep C E (.check y) := by
  cases x with
  | error v => exact .left (hleft v rfl)
  | ok a =>
    cases y with
    | error v => exact .right (hright v rfl)
    | ok b => exact .answer (hE a b rfl rfl)

/-- Going on with results that were checked in step. -/
theorem bind {x : Except Violation α} {y : Except Violation β} {f : α → Except Violation γ}
    {f' : β → Except Violation δ} (h : (Plan.check x).InStep C E (.check y))
    (hf : ∀ a b, E a b → (Plan.check (f a)).InStep C F (.check (f' b))) :
    (Plan.check (x >>= f)).InStep C F (.check (y >>= f')) := by
  rw [check_bind, check_bind]
  exact h.andThen hf

theorem map {x : Except Violation α} {y : Except Violation β} {f : α → γ} {f' : β → δ}
    (h : (Plan.check x).InStep C E (.check y)) (hf : ∀ a b, E a b → F (f a) (f' b)) :
    (Plan.check (x.map f)).InStep C F (.check (y.map f')) := by
  rw [check_map, check_map]
  exact h.andThen fun a b hab => .answer (hf a b hab)

end Plan.InStep

namespace Coupling.Kept

variable {C : Coupling} {bindings bindings' : Bindings}

theorem symm (hC : C.Kept bindings bindings') : C.symm.Kept bindings' bindings :=
  fun g w g' w' hasks => (hC g' w' g w hasks).symm

/-- **What plans in step settle with belongs together.**  The second plan settles if the first one
does, unless the first one is broken off. -/
theorem settles (hC : C.Kept bindings bindings') {α : Type} {p : Plan α} {r : Except Halt α}
    (hs : Settles bindings p r) :
    ∀ {β : Type} {E : α → β → Prop} {q : Plan β}, p.InStep C E q →
      Halted C.left r ∨
        ∃ r', Settles bindings' q r' ∧ (Halted C.right r' ∨ Agree E r r') := by
  -- By induction on how the first plan settles; the second one settles by the same steps.
  induction hs with
  | done =>
    intro β E q hp
    cases hp with
    | answer hE => exact .inr ⟨_, .done, .inr hE⟩
    | halt h => exact .inr ⟨_, .done, .inr rfl⟩
    | left hl => exact .inl hl
    | right hr => exact .inr ⟨_, .done, .inl hr⟩
  | ask _ _ ihg ihn =>
    intro β E q hp
    cases hp with
    | right hr => exact .inr ⟨_, .done, .inl hr⟩
    | ask hasks hnext =>
      obtain hl | ⟨reply', hg', hcase⟩ := ihg (hC _ _ _ _ hasks)
      · cases hl
      · rcases reply' with halt | reply'
        · exact .inr ⟨_, .halt hg', .inl (hcase.resolve_right nofun)⟩
        · have hreplies := hcase.resolve_left nofun
          obtain hl | ⟨r', hn', hcase'⟩ := ihn (hnext _ _ hreplies)
          · exact .inl hl
          · exact .inr ⟨r', .ask hg' hn', hcase'⟩
  | halt _ ihg =>
    intro β E q hp
    cases hp with
    | right hr => exact .inr ⟨_, .done, .inl hr⟩
    | ask hasks hnext =>
      obtain hl | ⟨reply', hg', hcase⟩ := ihg (hC _ _ _ _ hasks)
      · exact .inl hl
      · rcases reply' with halt | reply'
        · exact .inr ⟨_, .halt hg', hcase⟩
        · rcases hcase with hr | hagree
          · cases hr
          · cases hagree

/-- **What two grammars answer side by side belongs together**, whatever members of their
repertoires have filled the two memo tables with. -/
theorem answers {env env' : Environment} (hC : C.Kept env.bindings env'.bindings)
    (hfuel : ¬ C.right .outOfFuel) {S S' : Grammar → Prop} (h : Repertoire env.bindings S)
    (h' : Repertoire env'.bindings S') {g g' : Grammar} (hg : S g) (hg' : S' g') {w w' : Window}
    (hasks : C.asks g w g' w') {s s' : Session} (hs : s.Reached env S w.buffer)
    (hs' : s'.Reached env' S' w'.buffer) (parent parent' : NodeBuilder) {r : Except Halt Outcome}
    (hr : g.Answers env w parent s r) :
    Halted C.left r ∨
      ∃ r', g'.Answers env' w' parent' s' r' ∧
        (Halted C.right r' ∨
          Agree (fun o o' => ∃ reply reply', C.replies w w' reply reply' ∧
            o = Reply.outcome parent reply ∧ o' = Reply.outcome parent' reply') r r') := by
  obtain ⟨r, rfl, hne, hsettles⟩ :=
    (h.answers_iff_settles hg rfl (h.valid_of_reached hs)).mp hr
  obtain hl | ⟨r', hsettles', hcase⟩ := hC.settles hsettles (hC _ _ _ _ hasks)
  · exact .inl (hl.map _)
  · have hne' : r' ≠ .error .outOfFuel := by
      rintro rfl
      rcases hcase with hright | hagree
      · exact hfuel hright
      · rcases r with halt | reply
        · exact hne (congrArg _ hagree)
        · cases hagree
    refine .inr ⟨r'.map (Reply.outcome parent'), ?_, ?_⟩
    · exact (h'.answers_iff_settles hg' rfl (h'.valid_of_reached hs')).mpr
        ⟨r', rfl, hne', hsettles'⟩
    · exact hcase.imp (·.map _) (·.map fun reply reply' hreplies =>
        ⟨reply, reply', hreplies, rfl, rfl⟩)

end Coupling.Kept

end Packrat
