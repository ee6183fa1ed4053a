import Mathlib.Data.List.TakeWhile
import Packrat.Proofs.Replies
import Packrat.Proofs.Verbatim

/-! # Runs of characters

A run of characters is matched by one consumer, which counts as far as it may and cuts the text out
once, or by repeating a single character and joining what was matched.  Both match the longest run
that there is, with the same node (`character_run_answers_iff`).

The text in view is a list here (`Window.view`), and the run is a part of that list (`Window.run`):
what the one consumer counts is the length of this part, and the matches of the other spell it
character by character (`Spells`).  Where the run ends there is no further match, so that the
repetition is never stopped by a match that takes nothing.
-/
namespace Packrat

/-! ## The text in view -/

namespace Window

/-- The characters in view. -/
def view (w : Window) : List Char := (w.buffer.extract w.start w.stop).toList

theorem add_min_le_stop (w : Window) (count : Nat) : w.start + min count w.length ≤ w.stop :=
  add_le_stop (Nat.min_le_right count w.length)

/-- The window behind the first `count` characters in view. -/
def drop (w : Window) (count : Nat) : Window where
  buffer := w.buffer
  start := w.start + min count w.length
  stop := w.stop
  start_le := w.add_min_le_stop count
  stop_le := w.stop_le

/-- The longest run of characters at the start of the window that satisfy `p`, cut off at `max` of
them if that is a number. -/
def run (w : Window) (p : Char → Bool) : Option Nat → List Char
  | none => w.view.takeWhile p
  | some max => (w.view.takeWhile p).take max

variable {w rest : Window} {p : Char → Bool} {max : Option Nat} {count : Nat}

theorem view_eq (w : Window) : w.view = (w.buffer.toList.take w.stop).drop w.start := by
  rw [view, Array.toList_extract, List.extract_eq_take_drop, List.drop_take]

@[simp] theorem length_view (w : Window) : w.view.length = w.length := by
  have hstop : w.stop ≤ w.buffer.toList.length := w.stop_le
  rw [view_eq, List.length_drop, List.length_take, Nat.min_eq_left hstop, length]

theorem charAt?_eq_getElem? (w : Window) (index : Nat) : w.charAt? index = w.view[index]? := by
  rw [charAt?, view_eq, List.getElem?_drop, List.getElem?_take, Array.getElem?_toList, length]
  have hstart := w.start_le
  by_cases hindex : index < w.stop - w.start
  · rw [if_pos hindex, if_pos (by omega)]
  · rw [if_neg hindex, if_neg (by omega)]

/-- The text of the first characters in view. -/
theorem extract_eq_take (hcount : count ≤ w.length) :
    (w.buffer.extract w.start (w.start + count)).toList = w.view.take count := by
  have hstop := add_le_stop hcount
  rw [view, Array.toList_extract, Array.toList_extract, List.extract_eq_take_drop,
    List.extract_eq_take_drop, List.take_take, Nat.add_sub_cancel_left, Nat.min_eq_left (by omega)]

/-! ## What is behind the first characters -/

theorem start_drop (hcount : count ≤ w.length) : (w.drop count).start = w.start + count :=
  congrArg (w.start + ·) (Nat.min_eq_left hcount)

theorem continues_drop (w : Window) (count : Nat) : w.Continues (w.drop count) :=
  ⟨rfl, rfl, Nat.le_add_right ..⟩

/-- A rest of a window is known by its start. -/
theorem eq_drop_iff (hcount : count ≤ w.length) :
    rest = w.drop count ↔ w.Continues rest ∧ rest.start = w.start + count := by
  constructor
  · rintro rfl
    exact ⟨w.continues_drop count, start_drop hcount⟩
  · rintro ⟨hc, hstart⟩
    rw [← start_drop hcount] at hstart
    have hbehind : (w.drop count).Continues rest := ⟨hc.buffer_eq, hc.stop_eq, hstart.ge⟩
    exact hbehind.eq_of_start hstart

theorem advance_eq_drop (hcount : count ≤ w.length) :
    w.advance (w.start + count) = .ok (w.drop count) := by
  obtain ⟨hc, hstart⟩ := (eq_drop_iff hcount).mp rfl
  rw [← hstart, hc.advance_eq]

@[simp] theorem drop_zero (w : Window) : w.drop 0 = w :=
  ((eq_drop_iff (Nat.zero_le _)).mpr ⟨.refl w, rfl⟩).symm

theorem drop_drop (w : Window) (count more : Nat) :
    (w.drop count).drop more = w.drop (count + more) := by
  have hstart : ((w.drop count).drop more).start = (w.drop (count + more)).start := by
    simp only [drop, length]
    omega
  have hbehind : (w.drop (count + more)).Continues ((w.drop count).drop more) :=
    ⟨rfl, rfl, hstart.ge⟩
  exact hbehind.eq_of_start hstart

@[simp] theorem view_drop (w : Window) (count : Nat) : (w.drop count).view = w.view.drop count := by
  by_cases hcount : count ≤ w.length
  · rw [view_eq, view_eq, List.drop_drop, start_drop hcount]
    rfl
  · have hall : (w.drop count).length = 0 := by
      show w.stop - (w.start + min count w.length) = 0
      rw [length] at *
      omega
    rw [List.drop_eq_nil_of_le (by rw [length_view]; omega), ← List.length_eq_zero_iff,
      length_view, hall]

/-! ## The longest run -/

theorem run_prefix_view : w.run p max <+: w.view := by
  have hwhile := List.takeWhile_prefix (l := w.view) p
  cases max with
  | none => exact hwhile
  | some bound =>
    have htake := List.take_prefix bound (w.view.takeWhile p)
    exact htake.trans hwhile

theorem length_run_le : (w.run p max).length ≤ w.length := by
  rw [← length_view]
  exact run_prefix_view.length_le

/-- **The run is the longest one**: the lists it starts with are those that the text in view starts
with, whose characters all satisfy `p`, and that are no longer than they may be. -/
theorem prefix_run_iff {cs : List Char} :
    cs <+: w.run p max ↔
      cs <+: w.view ∧ (∀ c ∈ cs, p c = true) ∧ ∀ bound, max = some bound → cs.length ≤ bound := by
  have hwhile : cs <+: w.view.takeWhile p ↔ cs <+: w.view ∧ ∀ c ∈ cs, p c = true := by
    constructor
    · intro h
      have hprefix := List.takeWhile_prefix (l := w.view) p
      exact ⟨h.trans hprefix, fun c hc => List.mem_takeWhile_imp (h.subset hc)⟩
    · rintro ⟨⟨more, hview⟩, hcs⟩
      rw [← hview, List.takeWhile_append_of_pos hcs]
      exact List.prefix_append _ _
  cases max with
  | none => simp [run, hwhile]
  | some bound => simp [run, List.prefix_take_iff, hwhile, and_assoc]

@[simp] theorem run_zero : w.run p (some 0) = [] :=
  List.take_zero (l := w.view.takeWhile p)

/-- The run is empty where there may be no character, or the first one is none of it. -/
theorem run_eq_nil (h : max = some 0 ∨ ∀ c, w.view.head? = some c → p c = false) :
    w.run p max = [] := by
  obtain rfl | h := h
  · exact run_zero
  have hnil : w.view.takeWhile p = [] := by
    cases hview : w.view with
    | nil => rfl
    | cons c cs => exact List.takeWhile_cons_of_neg (by simp [h c (by rw [hview]; rfl)])
  cases max with
  | none => exact hnil
  | some bound => rw [run, hnil, List.take_nil]

/-- The run goes on behind its first character. -/
theorem run_eq_cons {c : Char} {cs : List Char} (hview : w.view = c :: cs) (hc : p c = true)
    (hmax : max ≠ some 0) : w.run p max = c :: (w.drop 1).run p (max.map (· - 1)) := by
  have hdrop : (w.drop 1).view = cs := by rw [view_drop, hview, List.drop_one, List.tail_cons]
  rcases max with _ | _ | bound
  · rw [run, hview, List.takeWhile_cons_of_pos hc, Option.map_none, run, hdrop]
  · exact absurd rfl hmax
  · rw [run, hview, List.takeWhile_cons_of_pos hc, List.take_succ_cons, Option.map_some, run, hdrop,
      Nat.add_sub_cancel]

/-- Behind a run without a bound there is none. -/
theorem run_drop_run : (w.drop (w.run p none).length).run p none = [] := by
  refine run_eq_nil (.inr fun c hc => ?_)
  have hbehind : (w.view.takeWhile p ++ w.view.dropWhile p).drop (w.view.takeWhile p).length =
      w.view.dropWhile p := List.drop_left
  rw [List.takeWhile_append_dropWhile] at hbehind
  rw [view_drop, run, hbehind] at hc
  have hfirst := List.head?_dropWhile_not p w.view
  rwa [hc] at hfirst

/-- The text of the run. -/
theorem extract_run :
    (w.buffer.extract w.start (w.start + (w.run p max).length)).toList = w.run p max := by
  rw [extract_eq_take length_run_le]
  exact (List.prefix_iff_eq_take.mp run_prefix_view).symm

theorem runLength_go_eq (w : Window) (p : Char → Bool) (left count : Nat) :
    runLength.go w p left count =
      count + (((w.view.drop count).take left).takeWhile p).length := by
  induction left generalizing count with
  | zero => simp [runLength.go]
  | succ left ih =>
    rw [runLength.go, charAt?_eq_getElem?, ih, ← List.head?_drop, ← List.tail_drop]
    rcases w.view.drop count with _ | ⟨c, cs⟩
    · simp
    · by_cases hc : p c
      · rw [List.take_succ_cons, List.takeWhile_cons_of_pos hc, List.head?_cons, Option.any_some,
          if_pos hc, List.tail_cons, List.length_cons]
        omega
      · simp [hc]

/-- Counting, with the length of the window where there is no bound, comes to the run. -/
theorem runLength_eq : w.runLength p (max.getD w.length) = (w.run p max).length := by
  have hprefix := List.takeWhile_prefix (l := w.view) p
  have hlength := hprefix.length_le
  rw [length_view] at hlength
  rw [runLength, runLength_go_eq, List.drop_zero, Nat.zero_add, ← List.take_takeWhile,
    List.length_take]
  cases max with
  | none => simp [run, hlength]
  | some bound =>
    rw [run, List.length_take, Option.getD_some]
    omega

end Window

/-! ## One consumer for the run -/

/-- The node of a run of characters at the start of `w`. -/
def runNode (w : Window) (run : List Char) : Node :=
  ⟨some ⟨w.start, w.start + run.length⟩, some (String.ofList run), none, []⟩

/-- The error at `w` where there are `count` characters, or matches, which are too few; `words` says
of what. -/
def ParseError.tooFew (words : String) (min : Nat) (w : Window) (count : Nat) : ParseError :=
  .mismatch (words ++ " (" ++ toString count ++ " < " ++ toString min ++ ")") w.start none

/-- The reply for a run of characters at the start of `w`. -/
def Reply.ofRun (words : String) (min : Nat) (w : Window) (run : List Char) : Reply :=
  if run.length < min then .error (.tooFew words min w run.length)
  else .ok (w.drop run.length, [runNode w run])

namespace Grammar

variable {min : Nat} {max : Option Nat} {cls : CharClass} {w : Window}

theorem charRunReply_of_lt (h : (w.run cls.contains max).length < min) :
    charRunReply min max cls none w =
      .ok (.error (.tooFew "Match count out of bounds" min w (w.run cls.contains max).length)) := by
  rw [charRunReply, Window.runLength_eq]
  exact if_pos h

/-- A run that is long enough is matched, unless it ends at no position. -/
theorem charRunReply_of_le (h : min ≤ (w.run cls.contains max).length) :
    charRunReply min max cls none w =
      (addPosition w.start (w.run cls.contains max).length).map fun _ =>
        .ok (w.drop (w.run cls.contains max).length, [runNode w (w.run cls.contains max)]) := by
  rw [charRunReply, Window.runLength_eq]
  refine (if_neg (Nat.not_lt.mpr h)).trans ?_
  cases hadd : addPosition w.start (w.run cls.contains max).length with
  | error v => rw [Window.text, hadd]; rfl
  | ok stop =>
    obtain rfl := addPosition_eq_ok hadd
    have hlength : (w.run cls.contains max).length ≤ w.length := Window.length_run_le
    have hstop := Window.add_le_stop hlength
    have hslice : w.slice w.start (w.start + (w.run cls.contains max).length) = .ok _ :=
      if_pos ⟨Nat.le_add_right .., Nat.le_trans hstop w.stop_le⟩
    rw [Window.text, hadd, ok_bind, hslice, ok_bind, ok_bind, leafReply,
      Window.advance_eq_drop hlength, Window.extract_run]
    rfl

end Grammar

/-! ## One character after the other -/

section Singles

open Repetition

variable {bindings : Bindings} {S : Grammar → Prop} (h : Repertoire bindings S) {min : Nat}
  {max : Option Nat} {cls : CharClass} {w : Window}

/-- A single character of a class. -/
def Grammar.single (cls : CharClass) : Grammar := .charRun 1 (some 1) cls none

include h in
theorem Repertoire.repliesAlone_charRun (hg : S (.charRun min max cls none))
    (hsize : w.buffer.size < positionBound) {r : Except Halt Reply} :
    (Grammar.charRun min max cls none).RepliesAlone bindings w r ↔
      r = .ok (.ofRun "Match count out of bounds" min w (w.run cls.contains max)) := by
  have hreply : Grammar.charRunReply min max cls none w =
      .ok (.ofRun "Match count out of bounds" min w (w.run cls.contains max)) := by
    rw [Reply.ofRun]
    split
    · exact Grammar.charRunReply_of_lt ‹_›
    · rw [Grammar.charRunReply_of_le (Nat.not_lt.mp ‹_›),
        Window.addPosition_eq hsize Window.length_run_le, map_ok]
  rw [h.repliesAlone_of_asks_nothing hg rfl, hreply, mapError_ok]

include h in
theorem Repertoire.repliesAlone_single (hg : S (.single cls))
    (hsize : w.buffer.size < positionBound) {c : Char} {cs : List Char} (hview : w.view = c :: cs)
    (hc : cls.contains c = true) :
    (Grammar.single cls).RepliesAlone bindings w (.ok (.ok (w.drop 1, [runNode w [c]]))) := by
  have hrun : w.run cls.contains (some 1) = [c] := by
    rw [Window.run_eq_cons hview hc (by decide)]
    exact congrArg _ Window.run_zero
  refine (h.repliesAlone_charRun hg hsize).mpr ?_
  rw [hrun]
  rfl

/-- The matches of a chain from `cursor` on spell the characters `cs`, one by one. -/
structure Spells (cursor : Window) (cs : List Char) (chain : List Match) : Prop where
  length_eq : chain.length = cs.length
  restAfter_eq : restAfter cursor chain = cursor.drop cs.length
  values_eq : Node.valuesAll (chain.flatMap (·.nodes)) = cs.map String.singleton

theorem Spells.nil (cursor : Window) : Spells cursor [] [] where
  length_eq := rfl
  restAfter_eq := cursor.drop_zero.symm
  values_eq := rfl

theorem Spells.cons {cursor : Window} {c : Char} {cs : List Char} {chain : List Match}
    (hspells : Spells (cursor.drop 1) cs chain) :
    Spells cursor (c :: cs) (⟨cursor.drop 1, [runNode cursor [c]]⟩ :: chain) where
  length_eq := congrArg (· + 1) hspells.length_eq
  restAfter_eq := by
    rw [restAfter, hspells.restAfter_eq, Window.drop_drop, List.length_cons, Nat.add_comm]
  values_eq := by
    rw [List.flatMap_cons, Node.valuesAll_append, hspells.values_eq, Node.valuesAll_singleton]
    rfl

include h in
/-- Where the run is empty there is no match. -/
theorem exists_chain_of_stop (hg : S (.single cls)) (hsize : w.buffer.size < positionBound)
    {left : Option Nat}
    (hstop : left = some 0 ∨ ∀ c, w.view.head? = some c → cls.contains c = false) :
    ∃ ending, Chain bindings (.single cls) left w [] ending ∧
      (ending = .full ∨ ending = .refused) ∧ Spells w (w.run cls.contains left) [] := by
  have hspells : Spells w (w.run cls.contains left) [] := by
    rw [Window.run_eq_nil hstop]
    exact .nil w
  by_cases hleft : left = some 0
  · subst hleft
    exact ⟨.full, .full, .inl rfl, hspells⟩
  · have hrun : w.run cls.contains (some 1) = [] :=
      Window.run_eq_nil (.inr (hstop.resolve_left hleft))
    have hreply := (h.repliesAlone_charRun hg hsize).mpr rfl
    rw [hrun] at hreply
    exact ⟨.refused, .refused hleft hreply rfl, .inr rfl, hspells⟩

include h in
/-- **Single characters, as many as there may be, spell the run.**  By induction on the text in
view: each match takes one character, so that the chain is never left idle. -/
theorem exists_chain_of_run (hg : S (.single cls)) (hsize : w.buffer.size < positionBound)
    (left : Option Nat) :
    ∃ chain ending, Chain bindings (.single cls) left w chain ending ∧
      (ending = .full ∨ ending = .refused) ∧ Spells w (w.run cls.contains left) chain := by
  generalize hview : w.view = cs
  induction cs generalizing w left with
  | nil => exact ⟨[], exists_chain_of_stop h hg hsize (.inr (by simp [hview]))⟩
  | cons c cs ih =>
    by_cases hstop : left = some 0 ∨ cls.contains c = false
    · exact ⟨[], exists_chain_of_stop h hg hsize (hstop.imp_right (by simp [hview]))⟩
    · -- One more character is matched, and the chain goes on behind it.
      obtain ⟨hleft, hc⟩ := not_or.mp hstop
      rw [Bool.not_eq_false] at hc
      have hrest : (w.drop 1).view = cs := by
        rw [Window.view_drop, hview, List.drop_one, List.tail_cons]
      have hmoves : (w.drop 1).start ≠ w.start := by
        have hlength : w.length = cs.length + 1 := by
          rw [← Window.length_view, hview, List.length_cons]
        rw [Window.start_drop (by omega)]
        exact Nat.succ_ne_self _
      obtain ⟨chain, ending, hchain, hending, hspells⟩ := ih (w := w.drop 1) hsize _ hrest
      rw [Window.run_eq_cons hview hc hleft]
      exact ⟨_, ending, .link hleft (h.repliesAlone_single hg hsize hview hc) (fun _ => hmoves)
        hchain, hending, hspells.cons⟩

theorem join_map_singleton (cs : List Char) :
    String.join (cs.map String.singleton) = String.ofList cs := by
  induction cs with
  | nil => rfl
  | cons c cs ih => rw [List.map_cons, String.join_cons, ih, String.ofList_cons]

/-- What a repetition makes of a chain that spells the run is joined to the node of the run. -/
theorem Spells.map_joined_reply {cs : List Char} {chain : List Match} (hspells : Spells w cs chain)
    (hlength : cs.length ≤ w.length) {ending : Ending}
    (hending : ending = .full ∨ ending = .refused) :
    (ending.reply min none w chain).map (Reply.joined "" w) =
      .ok (.ofRun "Out of bounds" min w cs) := by
  have hreply : ending.reply min none w chain =
      if cs.length < min then rejected min w cs.length
      else accepted none w (w.drop cs.length) (chain.flatMap (·.nodes)) := by
    have hcounted : ending.reply min none w chain =
        if chain.length < min then rejected min w chain.length
        else accepted none w (restAfter w chain) (chain.flatMap (·.nodes)) := by
      rcases hending with rfl | rfl <;> rfl
    rw [hcounted, hspells.length_eq, hspells.restAfter_eq]
  have hvalue : Node.joinValues "" [⟨some ⟨w.start, (w.drop cs.length).start⟩, none, none,
      chain.flatMap (·.nodes)⟩] = String.ofList cs := by
    rw [Node.joinValues_empty, Node.valuesAll_singleton, Node.values_of_value_eq_none rfl,
      hspells.values_eq, join_map_singleton]
  rw [hreply, Reply.ofRun]
  split
  · rfl
  · rw [accepted_none, runNode, ← hvalue, ← Window.start_drop hlength]
    rfl

include h in
/-- Single characters that are repeated and joined reply with the run. -/
theorem Repertoire.repliesAlone_joinedSingles {g : Grammar} (hg : S g)
    (hmade : Build.CanMake (do
      let singles ← Grammar.repetition min max (.single cls)
      Grammar.joined singles) g)
    (hsize : w.buffer.size + 1 < positionBound)
    (hmax : ∀ bound, max = some bound → bound < positionBound) {r : Except Halt Reply} :
    g.RepliesAlone bindings w r ↔
      r = .ok (.ofRun "Out of bounds" min w (w.run cls.contains max)) := by
  obtain ⟨singles, hsingles, hjoined⟩ := hmade.of_bind
  obtain ⟨id, rfl⟩ := Grammar.exists_of_memoize hsingles
  obtain ⟨id', rfl⟩ := Grammar.exists_of_memoize hjoined
  have hrepeated : S (.memoized id (.repetition min max (.single cls) none)) :=
    h.closed _ _ hg (.inl (.head _))
  have hsingle : S (.single cls) := h.closed _ _ hrepeated (.inl (.head _))
  obtain ⟨chain, ending, hchain, hending, hspells⟩ :=
    exists_chain_of_run h hsingle (Nat.lt_of_succ_lt hsize) max
  have hreply := (h.repliesAlone_join hg).mpr ⟨_, (h.repliesAlone_repetition hrepeated
    (.start hsize hmax)).mpr ⟨chain, ending, hchain, rfl⟩, rfl⟩
  rw [hspells.map_joined_reply Window.length_run_le hending] at hreply
  constructor
  · exact fun hr => h.repliesAlone_unique hg hr hreply
  · rintro rfl
    exact hreply

end Singles

/-! ## The two of them -/

theorem Reply.ofRun_eq_ok_iff {words : String} {min : Nat} {w rest : Window} {run : List Char}
    {nodes : List Node} :
    .ok (rest, nodes) = Reply.ofRun words min w run ↔
      min ≤ run.length ∧ rest = w.drop run.length ∧ nodes = [runNode w run] := by
  rw [Reply.ofRun]
  split
  · exact ⟨nofun, fun ⟨hmin, _⟩ => absurd hmin (Nat.not_le.mpr ‹_›)⟩
  · simp [Nat.not_lt.mp ‹_›]

theorem Reply.ofRun_eq_error_iff {words : String} {min : Nat} {w : Window} {run : List Char}
    {e : ParseError} :
    .error e = Reply.ofRun words min w run ↔
      run.length < min ∧ e = .tooFew words min w run.length := by
  rw [Reply.ofRun]
  split
  · simp [*]
  · simp [*]

/-- **The run of characters and the repeated single character agree.**  Both match where the
longest run of characters of the class, cut off at `max`, has at least `min` of them; they leave
what is behind it and append one node with its text.  Elsewhere both fail, recoverably and at the
start of the window. -/
theorem character_run_answers_iff {env : Environment} {S S' : Grammar → Prop}
    (h : Repertoire env.bindings S) (h' : Repertoire env.bindings S') {min : Nat}
    {max : Option Nat} {cls : CharClass} {plain : Grammar} (hg : S (.charRun min max cls none))
    (hmade : Build.CanMake (do
      let singles ← Grammar.repetition min max (.charRun 1 (some 1) cls none)
      Grammar.joined singles) plain)
    (hg' : S' plain) {w : Window} (hsize : w.buffer.size + 1 < positionBound)
    (hmax : ∀ bound, max = some bound → bound < positionBound) {s s' : Session}
    (hs : s.Reached env S w.buffer) (hs' : s'.Reached env S' w.buffer) (parent : NodeBuilder) :
    let fast : Grammar := .charRun min max cls none
    let run := w.run cls.contains max
    (∀ cs, cs <+: run ↔ cs <+: w.view ∧ (∀ c ∈ cs, cls.contains c = true) ∧
      ∀ bound, max = some bound → cs.length ≤ bound) ∧
    (∀ rest after, fast.Answers env w parent s (.ok ⟨.ok rest, after⟩) ↔
      plain.Answers env w parent s' (.ok ⟨.ok rest, after⟩)) ∧
    (∀ rest after, fast.Answers env w parent s (.ok ⟨.ok rest, after⟩) ↔
      min ≤ run.length ∧ w.Continues rest ∧ rest.start = w.start + run.length ∧
        after = parent.push ⟨some ⟨w.start, rest.start⟩, some (String.ofList run), none, []⟩) ∧
    (∀ e after, fast.Answers env w parent s (.ok ⟨.error e, after⟩) ↔
      run.length < min ∧ after = parent ∧
        e = .tooFew "Match count out of bounds" min w run.length) ∧
    (∀ e after, plain.Answers env w parent s' (.ok ⟨.error e, after⟩) ↔
      run.length < min ∧ after = parent ∧ e = .tooFew "Out of bounds" min w run.length) ∧
    ∀ halt, ¬ fast.Answers env w parent s (.error halt) ∧
      ¬ plain.Answers env w parent s' (.error halt) := by
  intro fast run
  have hfast : ∀ r, fast.RepliesAlone env.bindings w r ↔
      r = .ok (.ofRun "Match count out of bounds" min w run) := fun _ =>
    h.repliesAlone_charRun hg (Nat.lt_of_succ_lt hsize)
  have hplain : ∀ r, plain.RepliesAlone env.bindings w r ↔
      r = .ok (.ofRun "Out of bounds" min w run) := fun _ =>
    h'.repliesAlone_joinedSingles hg' hmade hsize hmax
  have hrun : run.length ≤ w.length := Window.length_run_le
  refine ⟨fun cs => Window.prefix_run_iff, fun rest after => ?_, fun rest after => ?_,
    fun e after => ?_, fun e after => ?_, fun halt => ⟨?_, ?_⟩⟩
  · simp only [h.answers_matched_iff hg hs, h'.answers_matched_iff hg' hs', fast, hfast, hplain,
      Except.ok.injEq, Reply.ofRun_eq_ok_iff]
  · simp only [h.answers_matched_iff hg hs, fast, hfast, Except.ok.injEq, Reply.ofRun_eq_ok_iff]
    constructor
    · rintro ⟨_, rfl, hmin, hrest, rfl⟩
      obtain ⟨hc, hstart⟩ := (Window.eq_drop_iff hrun).mp hrest
      rw [hstart]
      exact ⟨hmin, hc, rfl, (parent.push_eq_extend _).symm⟩
    · rintro ⟨hmin, hc, hstart, rfl⟩
      rw [hstart]
      exact ⟨_, parent.push_eq_extend _, hmin, (Window.eq_drop_iff hrun).mpr ⟨hc, hstart⟩, rfl⟩
  · simp only [h.answers_failed_iff hg hs, fast, hfast, Except.ok.injEq, Reply.ofRun_eq_error_iff,
      and_left_comm]
  · simp only [h'.answers_failed_iff hg' hs', hplain, Except.ok.injEq, Reply.ofRun_eq_error_iff,
      and_left_comm]
  · rw [h.answers_halted_iff hg hs, hfast]
    exact nofun
  · rw [h'.answers_halted_iff hg' hs', hplain]
    exact nofun

/-- Two digits are as many as there may be: the third character is left. -/
theorem digits_character_run_answers_iff :
    let fast : Grammar := .charRun 1 (some 2) .digit none
    let plain : Grammar := .memoized ⟨2⟩ (.join ""
      (.memoized ⟨1⟩ (.repetition 1 (some 2) (.charRun 1 (some 1) .digit none) none)) none)
    let w := Window.ofText "121x"
    let env : Environment := ⟨[], true⟩
    let s := ((plain.consume env 9 w .empty).exec {}).2
    Repertoire env.bindings (· ∈ fast.subgrammars) ∧
      Repertoire env.bindings (· ∈ plain.subgrammars) ∧
      Build.CanMake (do
        let singles ← Grammar.repetition 1 (some 2) (.charRun 1 (some 1) .digit none)
        Grammar.joined singles) plain ∧
      w.buffer.size + 1 < positionBound ∧
      (∀ bound, some 2 = some bound → bound < positionBound) ∧
      s.Reached env (· ∈ plain.subgrammars) w.buffer ∧
      ∃ rest after, fast.Answers env w .empty {} (.ok ⟨.ok rest, after⟩) ∧
        plain.Answers env w .empty s (.ok ⟨.ok rest, after⟩) ∧ rest.start = 2 := by
  intro fast plain w env s
  have h : Repertoire env.bindings (· ∈ fast.subgrammars) := .of_nodup (by decide) (by decide)
  have h' : Repertoire env.bindings (· ∈ plain.subgrammars) := .of_nodup (by decide) (by decide)
  have hmade : Build.CanMake (do
      let singles ← Grammar.repetition 1 (some 2) (.charRun 1 (some 1) .digit none)
      Grammar.joined singles) plain := ⟨⟨1, 0⟩, _, rfl⟩
  have hg : fast ∈ fast.subgrammars := Grammar.self_mem_subgrammars fast
  have hg' : plain ∈ plain.subgrammars := Grammar.self_mem_subgrammars plain
  have hsize : w.buffer.size + 1 < positionBound := by decide
  have hmax : ∀ bound, some 2 = some bound → bound < positionBound := by
    rintro _ ⟨rfl⟩
    decide
  have hs : ({} : Session).Reached env (· ∈ fast.subgrammars) w.buffer := .fresh rfl
  have hs' : s.Reached env (· ∈ plain.subgrammars) w.buffer :=
    .consumed 9 .empty (.fresh rfl) hg' rfl
  have hrun : (w.run CharClass.digit.contains (some 2)).length = 2 := by decide
  obtain ⟨-, hagree, hmatched, -⟩ :=
    character_run_answers_iff h h' hg hmade hg' hsize hmax hs hs' .empty
  have hanswers := (hmatched (w.drop 2) _).mpr
    ⟨by rw [hrun]; decide, w.continues_drop 2, by rw [hrun]; rfl, rfl⟩
  exact ⟨h, h', hmade, hsize, hmax, hs', w.drop 2, _, hanswers, (hagree _ _).mp hanswers, rfl⟩

end Packrat
