import Packrat.Text.Alphabetic
import Packrat.Text.Blank
import Packrat.Text.LetterCase
import Packrat.Text.Numeral
import Packrat.Text.Quoted

/-! # Classes of characters

A class is a description of a set of characters: a named set, an explicit one, or a combination of
other classes.  `contains` is its meaning and `render` the name under which a grammar shows it.
The empty conjunction holds every character and the empty disjunction none.
-/
namespace Packrat

/-- A class of characters. -/
inductive CharClass where
  | letter
  /-- White space other than a line end. -/
  | white
  | newline
  | identifierStart
  | identifierPart
  | upper
  | lower
  /-- The ten decimal digits `0` to `9`. -/
  | digit
  /-- The digits of a number written in base `radix`, in letters of either case. -/
  | digitOfBase (radix : Nat)
  | control
  /-- The characters listed, in increasing order and each once when built by `ofChars`. -/
  | oneOf (chars : List Char)
  | not (inner : CharClass)
  | all (parts : List CharClass)
  | any (parts : List CharClass)

namespace CharClass

/-- Whether `c` is a digit of base `radix`.  No character is one of a base outside 2 to 36. -/
def isDigitOfBase (radix : Nat) (c : Char) : Bool :=
  2 ≤ radix && radix ≤ 36 && (Text.digitValue? c).any (· < radix)

/-- Whether `c` ends a line. -/
def isLineEnd (c : Char) : Bool :=
  c == '\n' || c == '\r'

/-- Whether `c` has the property `Alphabetic`. -/
def isAlphabetic (c : Char) : Bool :=
  Text.alphabetic.containsChar c

/-- The two marks that count as letters of an identifier. -/
def isIdentifierMark (c : Char) : Bool :=
  c == '_' || c == '$'

mutual

/-- Meaning: whether the class holds `c`. -/
def contains : CharClass → Char → Bool
  | letter, c => isAlphabetic c
  | white, c => Text.whiteSpace.containsChar c && !isLineEnd c
  | newline, c => isLineEnd c
  | identifierStart, c => isAlphabetic c || isIdentifierMark c
  | identifierPart, c => isAlphabetic c || Text.numeric.containsChar c || isIdentifierMark c
  | upper, c => Text.uppercase.containsChar c
  | lower, c => Text.lowercase.containsChar c
  | digit, c => '0' ≤ c && c ≤ '9'
  | digitOfBase radix, c => isDigitOfBase radix c
  | control, c => Text.controlCode.containsChar c
  | oneOf chars, c => chars.contains c
  | not inner, c => !inner.contains c
  | all parts, c => allContain parts c
  | any parts, c => anyContains parts c

/-- Whether each of `parts` holds `c`. -/
def allContain : List CharClass → Char → Bool
  | [], _ => true
  | part :: parts, c => part.contains c && allContain parts c

/-- Whether some of `parts` holds `c`. -/
def anyContains : List CharClass → Char → Bool
  | [], _ => false
  | part :: parts, c => part.contains c || anyContains parts c

end

/-- An increasing list with `c` at its place, once. -/
def insertChar (c : Char) : List Char → List Char
  | [] => [c]
  | d :: rest =>
    if c < d then c :: d :: rest
    else if c = d then d :: rest
    else d :: insertChar c rest

/-- The class of the characters listed. -/
def ofChars (chars : List Char) : CharClass :=
  oneOf (chars.foldr insertChar [])

/-- The class of the characters not listed. -/
def noneOf (chars : List Char) : CharClass :=
  not (ofChars chars)

mutual

/-- Name: how a grammar shows the class. -/
def render : CharClass → String
  | letter => "match[alpha]"
  | white => "match[white]"
  | newline => "match[newline]"
  | identifierStart => "match[identifierStart]"
  | identifierPart => "match[identifierPart]"
  | upper => "match[uppercase]"
  | lower => "match[lowercase]"
  | digit => "match[digits]"
  | digitOfBase radix => "match[digits of base " ++ toString radix ++ "]"
  | control => "match[control]"
  | oneOf chars => "match[\x7b" ++ ", ".intercalate (chars.map Text.quoteChar) ++ "\x7d]"
  | not inner => "not(" ++ inner.render ++ ")"
  | all parts => "and([" ++ ", ".intercalate (renderAll parts) ++ "])"
  | any parts => "or([" ++ ", ".intercalate (renderAll parts) ++ "])"

/-- The names of `parts`, in order. -/
def renderAll : List CharClass → List String
  | [] => []
  | part :: parts => part.render :: renderAll parts

end

end CharClass
end Packrat
