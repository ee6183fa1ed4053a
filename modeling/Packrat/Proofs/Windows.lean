import Packrat.Window

/-! # Windows further on

What a consumer leaves is the rest of its window (`Continues`), and what it shows its parts lies in
its window (`Encloses`).  The text between a window and its rest is what was taken (`taken`); taking
twice takes the two texts one after the other.  A window that starts with a token holds all of it,
and a run of characters ends in view, so that neither leads out of the window.
-/
namespace Packrat

theorem addPosition_eq_ok {a b c : Nat} (h : addPosition a b = .ok c) : c = a + b := by
  rw [addPosition] at h
  split at h
  · exact (Except.ok.inj h).symm
  · cases h

theorem addPosition_of_lt {a b : Nat} (h : a + b < positionBound) : addPosition a b = .ok (a + b) :=
  if_pos h

namespace Window

/-- `w.Continues rest`: `rest` is what is left of `w` from some place on. -/
structure Continues (w rest : Window) : Prop where
  buffer_eq : rest.buffer = w.buffer
  stop_eq : rest.stop = w.stop
  start_le : w.start ≤ rest.start

/-- `w.Encloses inner`: `inner` is in view in `w`. -/
structure Encloses (w inner : Window) : Prop where
  buffer_eq : inner.buffer = w.buffer
  stop_le : inner.stop ≤ w.stop
  start_le : w.start ≤ inner.start

/-- The text from the start of `w` to the start of `rest`. -/
def taken (w rest : Window) : String :=
  String.ofList (w.buffer.extract w.start rest.start).toList

variable {w w' w'' : Window}

theorem Continues.refl (w : Window) : w.Continues w := ⟨rfl, rfl, Nat.le_refl _⟩

theorem Continues.trans (h : w.Continues w') (h' : w'.Continues w'') : w.Continues w'' :=
  ⟨h'.buffer_eq.trans h.buffer_eq, h'.stop_eq.trans h.stop_eq, Nat.le_trans h.start_le h'.start_le⟩

theorem Continues.encloses (h : w.Continues w') : w.Encloses w' :=
  ⟨h.buffer_eq, Nat.le_of_eq h.stop_eq, h.start_le⟩

/-- What is left starts in view. -/
theorem Continues.start_le_stop (h : w.Continues w') : w'.start ≤ w.stop := by
  rw [← h.stop_eq]
  exact w'.start_le

theorem Continues.lt_start_of_ne (h : w.Continues w') (hne : w'.start ≠ w.start) :
    w.start < w'.start :=
  Nat.lt_of_le_of_ne h.start_le hne.symm

/-- What is left behind something taken is shorter. -/
theorem Continues.length_lt (h : w.Continues w') (htaken : w.start < w'.start) :
    w'.length < w.length := by
  have hle := h.start_le_stop
  rw [length, length, h.stop_eq]
  omega

/-- Going on at the start of what is left gives what is left. -/
theorem Continues.advance_eq (h : w.Continues w') : w.advance w'.start = .ok w' := by
  obtain ⟨buffer, start, stop, hle, hstop⟩ := w'
  obtain ⟨rfl, rfl, -⟩ := h
  exact dif_pos ⟨hle, hstop⟩

theorem narrow_eq_ok {start stop : Nat} (h : w.narrow start stop = .ok w') :
    w'.buffer = w.buffer ∧ w'.start = start ∧ w'.stop = stop := by
  rw [narrow] at h
  split at h
  · cases h
    exact ⟨rfl, rfl, rfl⟩
  · cases h

theorem continues_of_advance {start : Nat} (h : w.advance start = .ok w') (hle : w.start ≤ start) :
    w.Continues w' := by
  obtain ⟨hb, rfl, hs⟩ := narrow_eq_ok h
  exact ⟨hb, hs, hle⟩

/-- There is a rest from each place in view on. -/
theorem exists_advance_eq {start : Nat} (hle : w.start ≤ start) (hstop : start ≤ w.stop) :
    ∃ rest, w.advance start = .ok rest ∧ w.Continues rest ∧ rest.start = start := by
  have hadvance : w.advance start = .ok ⟨w.buffer, start, w.stop, hstop, w.stop_le⟩ :=
    dif_pos ⟨hstop, w.stop_le⟩
  exact ⟨_, hadvance, continues_of_advance hadvance hle, rfl⟩

theorem encloses_of_narrow {size : Nat}
    (h : w.narrow w.start (w.start + min size w.length) = .ok w') : w.Encloses w' := by
  obtain ⟨hb, hs, ht⟩ := narrow_eq_ok h
  have := w.start_le
  refine ⟨hb, ?_, Nat.le_of_eq hs.symm⟩
  rw [ht, length]
  omega

/-- The front of a window is one. -/
theorem exists_narrow_eq (w : Window) (size : Nat) :
    ∃ inner, w.narrow w.start (w.start + min size w.length) = .ok inner := by
  have hfits : w.start ≤ w.start + min size w.length ∧
      w.start + min size w.length ≤ w.buffer.size := by
    have hstart := w.start_le
    have hstop := w.stop_le
    rw [length]
    omega
  exact ⟨_, dif_pos hfits⟩

/-! ## What was taken -/

/-- What was taken can be cut out of the text. -/
theorem Continues.slice_eq (h : w.Continues w') : w.slice w.start w'.start = .ok (w.taken w') :=
  if_pos ⟨h.start_le, Nat.le_trans h.start_le_stop w.stop_le⟩

@[simp] theorem taken_self (w : Window) : w.taken w = "" := by
  simp [taken]

/-- Taking twice takes the two texts one after the other. -/
theorem Continues.taken_append (h : w.Continues w') (h' : w'.Continues w'') :
    w.taken w' ++ w'.taken w'' = w.taken w'' := by
  rw [taken, taken, taken, h.buffer_eq, ← String.ofList_append, ← Array.toList_append,
    Array.extract_append_extract, Nat.min_eq_left h.start_le, Nat.max_eq_right h'.start_le]

/-! ## What is in view -/

theorem charAt?_eq_some {index : Nat} {c : Char} (h : w.charAt? index = some c) :
    index < w.length ∧ w.buffer[w.start + index]? = some c := by
  rw [charAt?] at h
  split at h
  · exact ⟨‹_›, h⟩
  · cases h

/-- The characters of the text from `start` on begin with one that is there. -/
theorem extract_succ {buffer : Array Char} {start count : Nat} {c : Char}
    (h : buffer[start]? = some c) :
    (buffer.extract start (start + (count + 1))).toList =
      c :: (buffer.extract (start + 1) (start + 1 + count)).toList := by
  obtain ⟨hlt, rfl⟩ := Array.getElem?_eq_some_iff.mp h
  have hlt' : start < buffer.toList.length := hlt
  have hcount : start + (count + 1) - start = count + 1 := by omega
  have hcount' : start + 1 + count - (start + 1) = count := by omega
  rw [Array.toList_extract, Array.toList_extract, List.extract_eq_take_drop,
    List.extract_eq_take_drop, List.drop_eq_getElem_cons hlt', hcount, hcount', List.take_succ_cons,
    Array.getElem_toList]

/-- Characters that were found in view are those of the text there. -/
theorem startsWith_go_eq {cs : List Char} {index : Nat} (hindex : index ≤ w.length)
    (h : startsWith.go w index cs = true) :
    index + cs.length ≤ w.length ∧
      (w.buffer.extract (w.start + index) (w.start + index + cs.length)).toList = cs := by
  induction cs generalizing index with
  | nil => simpa using hindex
  | cons c cs ih =>
    rw [startsWith.go, Bool.and_eq_true, beq_iff_eq] at h
    obtain ⟨hlt, hc⟩ := charAt?_eq_some h.1
    obtain ⟨hle, hcs⟩ := ih hlt h.2
    refine ⟨by simpa [Nat.add_comm, Nat.add_left_comm] using hle, ?_⟩
    rw [List.length_cons, extract_succ hc]
    exact congrArg (c :: ·) hcs

/-- A window that starts with a token holds all of it. -/
theorem startsWith_token {token : String} (h : w.startsWith token.toList = true) :
    token.length ≤ w.length ∧
      String.ofList (w.buffer.extract w.start (w.start + token.length)).toList = token := by
  obtain ⟨hle, hcs⟩ := startsWith_go_eq (Nat.zero_le _) h
  rw [String.length_toList] at hle hcs
  refine ⟨by omega, ?_⟩
  rw [Nat.add_zero] at hcs
  rw [hcs, String.ofList_toList]

theorem runLength_go_le (p : Char → Bool) (left count : Nat) :
    runLength.go w p left count ≤ count + left := by
  induction left generalizing count with
  | zero => exact Nat.le_refl count
  | succ left ih =>
    rw [runLength.go]
    split
    · have hle := ih (count + 1)
      omega
    · omega

/-- A run of characters ends in view. -/
theorem runLength_le (p : Char → Bool) (max : Nat) : w.runLength p max ≤ w.length := by
  have hle := w.runLength_go_le p (min max w.length) 0
  rw [runLength]
  omega

/-- So many characters end in view. -/
theorem add_le_stop {count : Nat} (hcount : count ≤ w.length) : w.start + count ≤ w.stop := by
  have hstart := w.start_le
  rw [length] at hcount
  omega

/-- A place in view is a position. -/
theorem addPosition_eq {count : Nat} (hsize : w.buffer.size < positionBound)
    (hcount : count ≤ w.length) : addPosition w.start count = .ok (w.start + count) := by
  have hle := Nat.le_trans (add_le_stop hcount) w.stop_le
  exact addPosition_of_lt (Nat.lt_of_le_of_lt hle hsize)

/-- Characters in view can be cut out of the text. -/
theorem text_eq {count : Nat} (hsize : w.buffer.size < positionBound) (hcount : count ≤ w.length) :
    w.text count =
      .ok (String.ofList (w.buffer.extract w.start (w.start + count)).toList) := by
  rw [text, addPosition_eq hsize hcount, ok_bind]
  exact if_pos ⟨Nat.le_add_right .., Nat.le_trans (add_le_stop hcount) w.stop_le⟩

theorem text_eq_ok {count : Nat} {text : String} (h : w.text count = .ok text) :
    text = String.ofList (w.buffer.extract w.start (w.start + count)).toList := by
  obtain ⟨stop, hstop, h⟩ := bind_eq_ok.mp h
  obtain rfl := addPosition_eq_ok hstop
  rw [slice] at h
  split at h
  · exact (Except.ok.inj h).symm
  · cases h

end Window
end Packrat
