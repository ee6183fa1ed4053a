import Packrat.Text.Printable

/-! # Quoted text

A quoted text stands between quote marks and shows every character so that the text can be read
off without doubt.  Six characters have short escapes (the quote mark itself, the backslash, tab,
line feed and carriage return, and NUL as `\0`); a character that is not visible on its own is
written by its code point, as in `\u{7f}`; all others stand for themselves.  A single character
is quoted by the same rule between apostrophes, where the apostrophe is escaped and `"` is not.
-/
namespace Packrat
namespace Text

/-- The escape that names `code` in hexadecimal digits, without leading zeros. -/
def codeEscape (code : Nat) : List Char :=
  '\\' :: 'u' :: '\x7b' :: (Nat.toDigits 16 code ++ ['\x7d'])

/-- Whether a quoted text shows `c` as it is: a printable character that does not attach itself to
the one before. -/
def isVisible (c : Char) : Bool :=
  !graphemeExtend.containsChar c && printable.containsChar c

/-- One character: the form of `c` between two marks `mark`. -/
def escape (mark c : Char) : List Char :=
  if c = '\x00' then ['\\', '0']
  else if c = '\t' then ['\\', 't']
  else if c = '\r' then ['\\', 'r']
  else if c = '\n' then ['\\', 'n']
  else if c = '\\' ∨ c = mark then ['\\', c]
  else if isVisible c then [c]
  else codeEscape c.toNat

/-- The characters `cs` between two marks `mark`. -/
def enclose (mark : Char) (cs : List Char) : String :=
  String.ofList (mark :: (cs.flatMap (escape mark) ++ [mark]))

/-- A text in double quotes. -/
def quote (s : String) : String :=
  enclose '"' s.toList

/-- A character in apostrophes. -/
def quoteChar (c : Char) : String :=
  enclose '\x27' [c]

end Text
end Packrat
