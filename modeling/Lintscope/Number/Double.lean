/-!
# Double-width numbers

Settings and reports may hold fractions, and a complaint about one has to show
the fraction that was read: the nearest number of double width. Such a number is
kept as what it is, a sign, a whole mantissa and a power of two, so that
rounding is exact arithmetic on whole numbers and nothing is left to a machine.
-/

namespace Lintscope

/-- A number of double width: `mantissa * 2 ^ exponent` with a sign, or one of
    the values outside of the number line. -/
inductive Double
  /-- No number. -/
  | nan
  /-- Beyond all numbers. -/
  | infinite (negative : Bool)
  /-- A number. -/
  | finite (negative : Bool) (mantissa : Nat) (exponent : Int)
  deriving DecidableEq, Repr, Inhabited

namespace Double

/-- The bits of a full mantissa. -/
def width : Nat := 53

/-- The smallest exponent. -/
def lowest : Int := -1074

/-- The largest exponent. -/
def highest : Int := 971

/-- The whole number nearest to a quotient; a half goes to the even neighbour. -/
def divideToEven (num den : Nat) : Nat :=
  let q := num / den
  let twice := 2 * (num % den)
  if twice < den || (twice == den && q % 2 == 0) then q else q + 1

/-- The exponent at which `num / den` has a full mantissa, or the lowest one. -/
def scale (num den : Nat) : Int :=
  let guess : Int := (num.log2 : Int) - den.log2 - (width - 1 : Nat)
  let full := if guess ≥ 0 then num ≥ den <<< (width - 1 + guess.toNat)
    else num <<< (-guess).toNat ≥ den <<< (width - 1)
  max (if full then guess else guess - 1) lowest

/-- The number nearest to `num / den`; a half goes to the even mantissa, and what
    is too large becomes infinite. -/
def round (negative : Bool) (num den : Nat) : Double :=
  if num = 0 then .finite negative 0 lowest
  else
    let e := scale num den
    let m := if e ≥ 0 then divideToEven num (den <<< e.toNat)
      else divideToEven (num <<< (-e).toNat) den
    let (m, e) := if m = 1 <<< width then (m / 2, e + 1) else (m, e)
    if e > highest then .infinite negative else .finite negative m e

/-- A power of ten. -/
def tenTo (n : Nat) : Nat := Nat.pow 10 n

/-- The number nearest to `digits * 10 ^ exponent`. -/
def ofDecimal (negative : Bool) (digits : Nat) (exponent : Int) : Double :=
  if exponent ≥ 0 then round negative (digits * tenTo exponent.toNat) 1
  else round negative digits (tenTo (-exponent).toNat)

/-- Whether this is zero, of either sign. -/
def isZero : Double → Bool
  | .finite _ m _ => m == 0
  | _ => false

/-- Whether this is on the number line. -/
def isFinite : Double → Bool
  | .finite .. => true
  | _ => false

/-- The numerator and denominator of a finite magnitude. -/
def fraction (mantissa : Nat) (exponent : Int) : Nat × Nat :=
  if exponent ≥ 0 then (mantissa <<< exponent.toNat, 1) else (mantissa, 1 <<< (-exponent).toNat)

/-- The product of two magnitudes, rounded once; the sign is the first one's. -/
def scaleBy (x y : Double) : Double :=
  match x, y with
  | .finite s m e, .finite _ n f =>
    let (a, b) := fraction m e
    let (c, d) := fraction n f
    round s (a * c) (b * d)
  | x, _ => x

/-- The quotient of two magnitudes, rounded once; the sign is the first one's. -/
def divideBy (x y : Double) : Double :=
  match x, y with
  | .finite s m e, .finite _ n f =>
    let (a, b) := fraction m e
    let (c, d) := fraction n f
    round s (a * d) (b * c)
  | x, _ => x

/-- The sum of two magnitudes, rounded once; the sign is the first one's. -/
def extendBy (x y : Double) : Double :=
  match x, y with
  | .finite s m e, .finite _ n f =>
    let (a, b) := fraction m e
    let (c, d) := fraction n f
    round s (a * d + c * b) (b * d)
  | x, _ => x

/-- A whole number as the nearest double. -/
def ofNat (n : Nat) : Double := round false n 1

end Double

end Lintscope
