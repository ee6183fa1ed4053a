import Packrat.Text.Json

/-! # Settings of a parse

The settings decide whether a parse must reach the end of its text, how large a memo table it starts
with, and how much of the rest of the text an error quotes.  They are stored as JSON: an object
with a member for each setting, or a list that gives them in order.  A setting that is left out has
its default; an unknown member is skipped; a setting given twice, a list with more than three
elements and anything after the value are refused.
-/
namespace Packrat

/-- Settings of a parse. -/
structure Config where
  /-- Whether text left over at the end is an error. -/
  requireCompleteInput : Bool := true
  /-- The number of entries for which the memo table has room from the start. -/
  memoCapacity : Nat := 64
  /-- The number of characters of the rest of the text that an error quotes. -/
  errorPreviewChars : Nat := 16
  deriving DecidableEq, Repr

/-- Why settings could not be loaded. -/
inductive ConfigError where
  /-- The file could not be read. -/
  | unreadable
  /-- The text is not a stored form of settings. -/
  | malformed
  deriving DecidableEq, Repr

namespace Config

/-- The settings of a parse that may leave text over. -/
def sloppy : Config := { requireCompleteInput := false }

/-- The stored form of settings. -/
def render (config : Config) : String :=
  "\x7b\"require_complete_input\":" ++ (if config.requireCompleteInput then "true" else "false")
    ++ ",\"memo_capacity\":" ++ toString config.memoCapacity
    ++ ",\"error_preview_chars\":" ++ toString config.errorPreviewChars ++ "\x7d"

/-- The settings read so far. -/
structure Draft where
  requireCompleteInput : Option Bool := none
  memoCapacity : Option Nat := none
  errorPreviewChars : Option Nat := none

namespace Draft

/-- The settings, with defaults for those not read. -/
def complete (p : Draft) : Config where
  requireCompleteInput := p.requireCompleteInput.getD ({} : Config).requireCompleteInput
  memoCapacity := p.memoCapacity.getD ({} : Config).memoCapacity
  errorPreviewChars := p.errorPreviewChars.getD ({} : Config).errorPreviewChars

end Draft

open Text.Json

/-- A setting that is a natural number of 64 bits. -/
def setting? (cs : List Char) : Option (Nat × List Char) :=
  natural? 0x10000000000000000 cs

/-- The value of the member `key`, of which `p` has been read before.  A member already read is
refused. -/
def readMember (key : String) (p : Draft) (cs : List Char) : Option (Draft × List Char) :=
  if key = "require_complete_input" then do
    guard p.requireCompleteInput.isNone
    let (value, rest) ← bool? cs
    some ({ p with requireCompleteInput := some value }, rest)
  else if key = "memo_capacity" then do
    guard p.memoCapacity.isNone
    let (value, rest) ← setting? cs
    some ({ p with memoCapacity := some value }, rest)
  else if key = "error_preview_chars" then do
    guard p.errorPreviewChars.isNone
    let (value, rest) ← setting? cs
    some ({ p with errorPreviewChars := some value }, rest)
  else do
    let rest ← skipAnyValue cs
    some (p, rest)

/-- The members of an object up to its end.  Each takes one unit of `fuel`. -/
def readMembers : Nat → Draft → List Char → Option (Draft × List Char)
  | 0, _, _ => none
  | fuel + 1, p, cs => do
    let rest ← skipMark '"' cs
    let (key, rest) ← string? rest
    let rest ← skipMark ':' rest
    let (p, rest) ← readMember key p rest
    match skipBlanks rest with
    | ',' :: rest => readMembers fuel p rest
    | '\x7d' :: rest => some (p, rest)
    | _ => none

/-- An object, whose opening mark has been read. -/
def readObject (cs : List Char) : Option (Draft × List Char) :=
  match skipMark '\x7d' cs with
  | some rest => some ({}, rest)
  | none => readMembers (cs.length + 1) {} cs

/-- The end of a list, or else a comma and what `next` reads after it. -/
def readNext (p : Draft) (cs : List Char)
    (next : List Char → Option (Draft × List Char)) : Option (Draft × List Char) :=
  match skipBlanks cs with
  | ']' :: rest => some (p, rest)
  | ',' :: rest => next rest
  | _ => none

/-- A list of up to three settings in order, whose opening mark has been read. -/
def readList (cs : List Char) : Option (Draft × List Char) :=
  match skipMark ']' cs with
  | some rest => some ({}, rest)
  | none => do
    let (complete, rest) ← bool? cs
    let p : Draft := { requireCompleteInput := some complete }
    readNext p rest fun rest => do
      let (capacity, rest) ← setting? rest
      let p := { p with memoCapacity := some capacity }
      readNext p rest fun rest => do
        let (preview, rest) ← setting? rest
        readNext { p with errorPreviewChars := some preview } rest fun _ => none

/-- Settings in their stored form, with nothing but blanks around them. -/
def readChars (cs : List Char) : Option Config := do
  let (p, rest) ← match skipBlanks cs with
    | '\x7b' :: rest => readObject rest
    | '[' :: rest => readList rest
    | _ => none
  guard (skipBlanks rest).isEmpty
  some p.complete

/-- Reading: the settings stored in `text`. -/
def read (text : String) : Except ConfigError Config :=
  match readChars text.toList with
  | some config => .ok config
  | none => .error .malformed

/-- Loading: the settings stored in a file, given what the file holds if it could be read. -/
def load : Option String → Except ConfigError Config
  | some text => read text
  | none => .error .unreadable

end Config
end Packrat
