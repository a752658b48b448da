import Lintscope.Text.Cut

/-!
# Sets of characters as ranges

The tables of the character standard are long lists of ranges. They are written
here as the standard writes them: code points in hexadecimal digits, a range as
two of them with a dash between, both ends included.
-/

namespace Lintscope.Unicode

/-- Whether a character divides the entries of a table. -/
def isGap (c : Char) : Bool := c = ' ' || c = '\n'

/-- A set of characters: ranges of code points, both ends included. -/
structure Ranges where
  /-- The ranges. -/
  ranges : Array (Nat × Nat)

namespace Ranges

/-- The value of a hexadecimal digit. -/
def hexDigit (c : Char) : Nat :=
  if c.isDigit then c.toNat - '0'.toNat else c.toNat - 'A'.toNat + 10

/-- The value of hexadecimal digits. -/
def hex (digits : List Char) : Nat :=
  digits.foldl (fun n c => 16 * n + hexDigit c) 0

/-- The set that a table writes. -/
def read (table : String) : Ranges :=
  ⟨((Text.wordsBy isGap table.toList).map fun range =>
    match Text.cut? ['-'] range with
    | some (low, high) => (hex low, hex high)
    | none => (hex range, hex range)).toArray⟩

/-- Whether a character is in one of the ranges. -/
def has (r : Ranges) (c : Char) : Bool :=
  r.ranges.any fun (low, high) => low ≤ c.toNat && c.toNat ≤ high

end Ranges

end Lintscope.Unicode
