/-!
# JSON values

A JSON text stands for null, a truth value, a number, a string, a list of
values, or a list of values with names. Numbers are kept as they are written
apart: whole numbers as such, all others as their decimal digits.
-/

namespace Lintscope

/-- A number that is not written as a whole number: its sign, its digits as one
    number, and the power of ten that it is multiplied by. -/
structure Decimal where
  /-- Whether it has a minus sign. -/
  negative : Bool
  /-- The digits. -/
  digits : Nat
  /-- The power of ten. -/
  exponent : Int
  deriving DecidableEq, Repr

/-- A JSON value. -/
inductive Json where
  /-- Null. -/
  | null
  /-- A truth value. -/
  | bool (b : Bool)
  /-- A whole number. -/
  | int (n : Int)
  /-- Any other number. -/
  | decimal (d : Decimal)
  /-- A string. -/
  | str (s : String)
  /-- A list of values. -/
  | arr (items : List Json)
  /-- Names and their values, in their order. -/
  | obj (members : List (String × Json))

end Lintscope
