/-!
# Decimal numerals

Numbers are read from ASCII decimal digits, at least one, with a plus sign
allowed in front and leading zeros of any number. A reading also has a limit:
a numeral whose value is not below it names no number.
-/

namespace Lintscope.Text

/-- The first value that does not fit 32 bits. -/
abbrev limit32 : Nat := 4294967296

/-- The first value that does not fit 64 bits. -/
abbrev limit64 : Nat := 18446744073709551616

/-- The value of an ASCII digit. -/
def digitValue (c : Char) : Nat := c.toNat - '0'.toNat

/-- The value of a list of ASCII digits, the first one most significant. -/
def digitsValue (ds : List Char) : Nat := ds.foldl (fun n d => 10 * n + digitValue d) 0

/-- The number below `limit` that a numeral names. -/
def natOfNumeral? (limit : Nat) (s : List Char) : Option Nat :=
  let digits := match s with
    | '+' :: r => r
    | r => r
  if digits ≠ [] ∧ digits.all Char.isDigit ∧ digitsValue digits < limit then
    some (digitsValue digits)
  else none

/-- The decimal digits of a number, without leading zeros. -/
def numeral (n : Nat) : List Char := Nat.toDigits 10 n

end Lintscope.Text
