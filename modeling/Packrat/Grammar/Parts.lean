import Packrat.Grammar.Basic

/-! # What a grammar is made of

`parts` lists the grammars that a grammar is directly made of, and `subgrammars` a grammar with
everything that is written in it.  What its references stand for is not part of it.
-/
namespace Packrat

/-- The grammars that a production is made of. -/
def Production.parts : Production → List Grammar
  | sequence parts _ => parts
  | choice branches _ => branches
  | repetition _ _ body _ => [body]
  | lift body _ => [body]
  | join _ body _ => [body]
  | preserve body _ => [body]

namespace Grammar

/-- The grammars that a grammar is made of. -/
def parts : Grammar → List Grammar
  | skip body => [body]
  | require body => [body]
  | group _ body => [body]
  | replace _ body => [body]
  | memoized _ production => production.parts
  | counted _ body => [body]
  | windowed _ body => [body]
  | once _ first later => [first, later]
  | _ => []

mutual

/-- The grammar and everything written in it, outermost first. -/
def subgrammars : Grammar → List Grammar
  | skip body => skip body :: body.subgrammars
  | require body => require body :: body.subgrammars
  | group name body => group name body :: body.subgrammars
  | replace translator body => replace translator body :: body.subgrammars
  | memoized id production => memoized id production :: subgrammarsOf production
  | counted name body => counted name body :: body.subgrammars
  | windowed size body => windowed size body :: body.subgrammars
  | once flag first later => once flag first later :: (first.subgrammars ++ later.subgrammars)
  | g => [g]

/-- Everything written in a production. -/
def subgrammarsOf : Production → List Grammar
  | .sequence parts _ => subgrammarsAll parts
  | .choice branches _ => subgrammarsAll branches
  | .repetition _ _ body _ => body.subgrammars
  | .lift body _ => body.subgrammars
  | .join _ body _ => body.subgrammars
  | .preserve body _ => body.subgrammars

/-- The grammars of a list with everything written in them. -/
def subgrammarsAll : List Grammar → List Grammar
  | [] => []
  | g :: gs => g.subgrammars ++ subgrammarsAll gs

end

/-- The identities of the memoizing consumers written in a grammar. -/
def consumerIds (g : Grammar) : List ConsumerId :=
  g.subgrammars.filterMap fun
    | memoized id _ => some id
    | _ => none

/-! ## Being written in a grammar -/

theorem mem_subgrammarsAll {g : Grammar} {gs : List Grammar} :
    g ∈ subgrammarsAll gs ↔ ∃ h ∈ gs, g ∈ h.subgrammars := by
  induction gs with
  | nil => simp [subgrammarsAll]
  | cons h gs ih => simp [subgrammarsAll, ih]

/-- What is written in a grammar: the grammar, and what is written in its parts. -/
theorem mem_subgrammars {g h : Grammar} :
    g ∈ h.subgrammars ↔ g = h ∨ ∃ part ∈ h.parts, g ∈ part.subgrammars := by
  cases h with
  | memoized id production =>
    cases production <;> simp [subgrammars, subgrammarsOf, parts, Production.parts,
      mem_subgrammarsAll]
  | _ => simp [subgrammars, parts]

theorem self_mem_subgrammars (g : Grammar) : g ∈ g.subgrammars := mem_subgrammars.mpr (.inl rfl)

theorem sizeOf_lt_of_mem_parts {g h : Grammar} (hg : g ∈ h.parts) : sizeOf g < sizeOf h := by
  cases h with
  | memoized id production =>
    cases production with
    | sequence parts factory =>
      have : sizeOf g < sizeOf parts := List.sizeOf_lt_of_mem hg
      simp
      omega
    | choice branches factory =>
      have : sizeOf g < sizeOf branches := List.sizeOf_lt_of_mem hg
      simp
      omega
    | _ =>
      obtain rfl := List.mem_singleton.mp hg
      simp
      omega
  | _ =>
    simp [parts] at hg
    try rcases hg with rfl | rfl
    all_goals
      simp
      try omega

/-- The parts of what is written in a grammar are written in it too. -/
theorem mem_subgrammars_of_part (g : Grammar) {h part : Grammar} (hh : h ∈ g.subgrammars)
    (hpart : part ∈ h.parts) : part ∈ g.subgrammars := by
  rcases mem_subgrammars.mp hh with rfl | ⟨g', hg', hh'⟩
  · exact mem_subgrammars.mpr (.inr ⟨part, hpart, self_mem_subgrammars part⟩)
  · exact mem_subgrammars.mpr (.inr ⟨g', hg', mem_subgrammars_of_part g' hh' hpart⟩)
termination_by sizeOf g
decreasing_by exact sizeOf_lt_of_mem_parts hg'

end Grammar
end Packrat
