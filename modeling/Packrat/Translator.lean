import Packrat.Text.Numeral

/-! # Translators

A translator rewrites the value of a node.
-/
namespace Packrat

/-- A rewriting of values. -/
abbrev Translator := String → String

namespace Translator

/-- Every value becomes `replacement`. -/
def constant (replacement : String) : Translator := fun _ => replacement

/-- The letters `a` to `z` become capitals. -/
def upper : Translator := fun s => s.map Char.toUpper

/-- The characters change their order. -/
def reverse : Translator := fun s => String.ofList s.toList.reverse

/-- The value is put between angle brackets. -/
def wrap : Translator := fun s => "<" ++ s ++ ">"

/-- The character with the given code point, if there is one. -/
def charOfCode? (code : Nat) : Option Char :=
  if code.isValidChar then some (Char.ofNat code) else none

/-- The character whose code point the value names in hexadecimal digits after two characters of
introduction.  A value that names no character becomes empty. -/
def hex : Translator := fun s =>
  match (Text.natural? 16 0x100000000 (s.toList.drop 2)).bind charOfCode? with
  | some c => String.singleton c
  | none => ""

end Translator
end Packrat
