import Packrat.Text.Quoted
import Packrat.Violation

/-! # Windows on a text

A window is a range of positions of a text.  Consuming text never changes a window; `advance` and
`narrow` give another window on the same text.  They ask for a range that lies inside the text, not
inside the window at hand, so a window can be widened again.  Positions count characters.
-/
namespace Packrat

/-- The positions from `start` up to, but not including, `stop` of a text. -/
structure Window where
  buffer : Array Char
  start : Nat
  stop : Nat
  start_le : start ≤ stop
  stop_le : stop ≤ buffer.size

namespace Window

/-- The window on the whole of `text`. -/
def ofText (text : String) : Window where
  buffer := text.toList.toArray
  start := 0
  stop := text.toList.toArray.size
  start_le := Nat.zero_le _
  stop_le := Nat.le_refl _

/-- The number of characters in view. -/
def length (w : Window) : Nat := w.stop - w.start

/-- Whether no character is in view. -/
def isEmpty (w : Window) : Bool := w.start == w.stop

/-- The character `index` places after the start, if it is in view. -/
def charAt? (w : Window) (index : Nat) : Option Char :=
  if index < w.length then w.buffer[w.start + index]? else none

/-- The window from `start` to `stop` on the same text. -/
def narrow (w : Window) (start stop : Nat) : Except Violation Window :=
  if h : start ≤ stop ∧ stop ≤ w.buffer.size then
    .ok ⟨w.buffer, start, stop, h.1, h.2⟩
  else
    .error .windowOutOfBounds

/-- The window from `start` to the end of the present one. -/
def advance (w : Window) (start : Nat) : Except Violation Window :=
  w.narrow start w.stop

/-- The characters of the text from `start` up to `stop`, whether in view or not. -/
def slice (w : Window) (start stop : Nat) : Except Violation String :=
  if start ≤ stop ∧ stop ≤ w.buffer.size then
    .ok (String.ofList (w.buffer.extract start stop).toList)
  else
    .error .sliceOutOfBounds

/-- The first `count` characters after the start, whether in view or not. -/
def text (w : Window) (count : Nat) : Except Violation String := do
  let stop ← addPosition w.start count
  w.slice w.start stop

/-- The characters in view, but no more than `max`. -/
def preview (w : Window) (max : Nat) : String :=
  String.ofList (w.buffer.extract w.start (w.start + min w.length max)).toList

/-- Whether the characters in view start with `cs`. -/
def startsWith (w : Window) (cs : List Char) : Bool :=
  go 0 cs
where
  go (index : Nat) : List Char → Bool
    | [] => true
    | c :: rest => w.charAt? index == some c && go (index + 1) rest

/-- The number of leading characters in view that satisfy `p`, but no more than `max`. -/
def runLength (w : Window) (p : Char → Bool) (max : Nat) : Nat :=
  go (min max w.length) 0
where
  go : Nat → Nat → Nat
    | 0, count => count
    | left + 1, count => if (w.charAt? count).any p then go left (count + 1) else count

/-- The number of characters that an unasked preview shows. -/
def previewLength : Nat := 16

/-- The window as it is shown: the first characters in view. -/
def render (w : Window) : String := w.preview previewLength

/-- The window as it is shown with its positions. -/
def describe (w : Window) : String :=
  "Cursor \x7b start: " ++ toString w.start ++ ", end: " ++ toString w.stop ++ ", preview: "
    ++ Text.quote w.render ++ " \x7d"

end Window
end Packrat
