/-! # Reading numerals

A numeral is an optional sign and at least one digit, with nothing before, between or after them.
A signed numeral takes `+` or `-`, an unsigned one only `+`, and a value outside the range asked
for is no value.
-/
namespace Packrat
namespace Text

/-- The value of an ASCII digit or letter as a digit, up to 35 for `z` and `Z`. -/
def digitValue? (c : Char) : Option Nat :=
  if '0' ≤ c ∧ c ≤ '9' then some (c.toNat - '0'.toNat)
  else if 'a' ≤ c ∧ c ≤ 'z' then some (c.toNat - 'a'.toNat + 10)
  else if 'A' ≤ c ∧ c ≤ 'Z' then some (c.toNat - 'A'.toNat + 10)
  else none

/-- The value of `digits` in `base`, continued from `value`. -/
def digitsFrom (base value : Nat) : List Char → Option Nat
  | [] => some value
  | c :: rest =>
    match digitValue? c with
    | some d => if d < base then digitsFrom base (value * base + d) rest else none
    | none => none

/-- The value of a non-empty list of digits. -/
def digits? (base : Nat) : List Char → Option Nat
  | [] => none
  | cs => digitsFrom base 0 cs

/-- An unsigned numeral below `bound`. -/
def natural? (base bound : Nat) (cs : List Char) : Option Nat :=
  (digits? base (match cs with
    | '+' :: rest => rest
    | cs => cs)).filter (· < bound)

/-- A signed decimal numeral in the range of 64 bits. -/
def int64? : List Char → Option Int
  | '-' :: rest => ((digits? 10 rest).filter (· ≤ 0x8000000000000000)).map fun n => -(n : Int)
  | cs => (natural? 10 0x8000000000000000 cs).map fun n => (n : Int)

end Text
end Packrat
