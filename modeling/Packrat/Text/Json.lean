import Packrat.Text.Numeral

/-! # Pieces of a JSON text

Readers for the parts of a JSON text that a settings file is made of.  Each takes the characters
that are left and answers with what it read and the characters after it, or with nothing.

A string is read in two steps.  `stringPieces` finds its end and resolves the escapes one by one;
`assemble` joins the halves of surrogate pairs and refuses a half that stands alone.  A value that
is only skipped goes through the first step alone, so a lone half does no harm there.
-/
namespace Packrat
namespace Text
namespace Json

/-- The characters after the blanks in front. -/
def skipBlanks : List Char → List Char
  | [] => []
  | c :: rest => if c = ' ' ∨ c = '\n' ∨ c = '\t' ∨ c = '\r' then skipBlanks rest else c :: rest

/-- The characters after `word`, which must stand in front. -/
def skipWord : List Char → List Char → Option (List Char)
  | [], cs => some cs
  | w :: word, c :: cs => if w = c then skipWord word cs else none
  | _ :: _, [] => none

/-- The characters after the mark `mark`, with blanks allowed before it. -/
def skipMark (mark : Char) (cs : List Char) : Option (List Char) :=
  skipWord [mark] (skipBlanks cs)

/-- A piece of a string: a character, or a 16-bit unit given by its number. -/
inductive Piece where
  | char (c : Char)
  | codeUnit (n : Nat)

/-- The character that a short escape stands for. -/
def shortEscape? : Char → Option Char
  | '"' => some '"'
  | '\\' => some '\\'
  | '/' => some '/'
  | 'b' => some '\x08'
  | 'f' => some '\x0c'
  | 'n' => some '\n'
  | 'r' => some '\r'
  | 't' => some '\t'
  | _ => none

/-- The pieces of a string whose opening mark has been read, up to its closing mark.  A control
character must be written as an escape. -/
def stringPieces : List Char → Option (List Piece × List Char)
  | [] => none
  | '"' :: rest => some ([], rest)
  | '\\' :: 'u' :: a :: b :: c :: d :: rest => do
    let unit ← digitsFrom 16 0 [a, b, c, d]
    let (pieces, rest) ← stringPieces rest
    some (.codeUnit unit :: pieces, rest)
  | '\\' :: letter :: rest => do
    let c ← shortEscape? letter
    let (pieces, rest) ← stringPieces rest
    some (.char c :: pieces, rest)
  | c :: rest => do
    guard (0x20 ≤ c.toNat ∧ c ≠ '\\')
    let (pieces, rest) ← stringPieces rest
    some (.char c :: pieces, rest)

/-- Whether a unit is the first half of a surrogate pair. -/
def isHighHalf (n : Nat) : Bool := 0xD800 ≤ n && n < 0xDC00

/-- Whether a unit is the second half of a surrogate pair. -/
def isLowHalf (n : Nat) : Bool := 0xDC00 ≤ n && n < 0xE000

/-- The characters that the pieces stand for. -/
def assemble : List Piece → Option (List Char)
  | [] => some []
  | .char c :: rest => (assemble rest).map (c :: ·)
  | .codeUnit high :: .codeUnit low :: rest =>
    if isHighHalf high then
      if isLowHalf low then
        (assemble rest).map (Char.ofNat (0x10000 + (high - 0xD800) * 0x400 + (low - 0xDC00)) :: ·)
      else none
    else if isLowHalf high then none
    else (assemble (.codeUnit low :: rest)).map (Char.ofNat high :: ·)
  | .codeUnit n :: rest =>
    if isHighHalf n || isLowHalf n then none else (assemble rest).map (Char.ofNat n :: ·)

/-- A string whose opening mark has been read. -/
def string? (cs : List Char) : Option (String × List Char) := do
  let (pieces, rest) ← stringPieces cs
  let chars ← assemble pieces
  some (String.ofList chars, rest)

/-- The digits in front, and the characters after them. -/
def spanDigits (cs : List Char) : List Char × List Char :=
  cs.span (fun c => '0' ≤ c && c ≤ '9')

/-- The digits of a natural number in front, without needless zeros. -/
def integerDigits? (cs : List Char) : Option (List Char × List Char) :=
  match spanDigits cs with
  | ([], _) => none
  | ('0' :: _ :: _, _) => none
  | (digits, rest) => some (digits, rest)

/-- The characters after an exponent, if one stands in front. -/
def skipExponent : List Char → Option (List Char)
  | 'e' :: rest => skipSigned rest
  | 'E' :: rest => skipSigned rest
  | cs => some cs
where
  skipSigned (cs : List Char) : Option (List Char) :=
    match spanDigits (match cs with
      | '+' :: rest => rest
      | '-' :: rest => rest
      | cs => cs) with
    | ([], _) => none
    | (_, rest) => some rest

/-- The characters after a fraction and an exponent, if they stand in front. -/
def skipFraction : List Char → Option (List Char)
  | '.' :: rest =>
    match spanDigits rest with
    | ([], _) => none
    | (_, rest) => skipExponent rest
  | cs => skipExponent cs

/-- The characters after a number whose sign has been read. -/
def skipNumber (cs : List Char) : Option (List Char) := do
  let (_, rest) ← integerDigits? cs
  skipFraction rest

/-- A natural number below `bound`, written without sign, fraction or exponent. -/
def natural? (bound : Nat) (cs : List Char) : Option (Nat × List Char) := do
  let (digits, rest) ← integerDigits? (skipBlanks cs)
  let value ← digitsFrom 10 0 digits
  guard (value < bound)
  match rest with
  | '.' :: _ => none
  | 'e' :: _ => none
  | 'E' :: _ => none
  | _ => some (value, rest)

/-- A truth value. -/
def bool? (cs : List Char) : Option (Bool × List Char) :=
  match skipBlanks cs with
  | 't' :: rest => (skipWord "rue".toList rest).map (true, ·)
  | 'f' :: rest => (skipWord "alse".toList rest).map (false, ·)
  | _ => none

mutual

/-- The characters after any value.  Each step and each level takes one unit of `fuel`. -/
def skipValue : Nat → List Char → Option (List Char)
  | 0, _ => none
  | fuel + 1, cs =>
    match skipBlanks cs with
    | '"' :: rest => (stringPieces rest).map (·.2)
    | 'n' :: rest => skipWord "ull".toList rest
    | 't' :: rest => skipWord "rue".toList rest
    | 'f' :: rest => skipWord "alse".toList rest
    | '-' :: rest => skipNumber rest
    | '[' :: rest => (skipMark ']' rest).or (skipElements fuel rest)
    | '\x7b' :: rest => (skipMark '\x7d' rest).or (skipMembers fuel rest)
    | cs => skipNumber cs

/-- The characters after the elements of a list and its end. -/
def skipElements : Nat → List Char → Option (List Char)
  | 0, _ => none
  | fuel + 1, cs => do
    let rest ← skipValue fuel cs
    match skipBlanks rest with
    | ',' :: rest => skipElements fuel rest
    | ']' :: rest => some rest
    | _ => none

/-- The characters after the members of an object and its end. -/
def skipMembers : Nat → List Char → Option (List Char)
  | 0, _ => none
  | fuel + 1, cs => do
    let rest ← skipMark '"' cs
    let (_, rest) ← stringPieces rest
    let rest ← skipMark ':' rest
    let rest ← skipValue fuel rest
    match skipBlanks rest with
    | ',' :: rest => skipMembers fuel rest
    | '\x7d' :: rest => some rest
    | _ => none

end

/-- The characters after any value, with as much fuel as they can need. -/
def skipAnyValue (cs : List Char) : Option (List Char) :=
  skipValue (2 * cs.length + 2) cs

end Json
end Text
end Packrat
