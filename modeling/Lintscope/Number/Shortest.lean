import Lintscope.Number.Double

/-!
# Shortest decimals

A double is shown with the fewest digits that read back as the same double, and
of those with the digits nearest to it. The numbers that round to a double fill
an interval around it, whose ends belong to it exactly if its mantissa is even.
If a grid of decimals has a point in the interval, then so does one of the two
grid points next to the double itself: so it is enough to try these two, on finer
and finer grids.
-/

namespace Lintscope

namespace Double

/-- The decimal `digits * 10 ^ exponent`. -/
structure Decimal where
  /-- The digits as one number. -/
  digits : Nat
  /-- The power of ten that it is multiplied by. -/
  exponent : Int

/-- The place of the leading digit of `num / den`: the least `p` with
    `num / den < 10 ^ p`. -/
def leading (num den : Nat) : Int :=
  if num ≥ den then (toString (num / den)).length
  else 1 - (toString ((den + num - 1) / num - 1)).length

/-- The numbers that round to a double, as numerators over one denominator. -/
structure Interval where
  /-- The lower end. -/
  low : Nat
  /-- The double itself. -/
  value : Nat
  /-- The upper end. -/
  high : Nat
  /-- The denominator. -/
  den : Nat
  /-- Whether the ends belong to it. -/
  closed : Bool

/-- Around `mantissa * 2 ^ exponent`: half a unit up, and half a unit down, or a
    quarter where the mantissa is the least full one. -/
def interval (mantissa : Nat) (exponent : Int) : Interval :=
  let (unit, den) := fraction 1 (exponent - 2)
  let down := if mantissa = 1 <<< (width - 1) && exponent > lowest then 1 else 2
  { low := (4 * mantissa - down) * unit, value := 4 * mantissa * unit,
    high := (4 * mantissa + 2) * unit, den, closed := mantissa % 2 == 0 }

/-- Whether the decimal `digits * 10 ^ exponent` rounds to the double. -/
def Interval.holds (i : Interval) (num den : Nat) : Bool :=
  let x := num * i.den
  let low := i.low * den
  let high := i.high * den
  if i.closed then low ≤ x && x ≤ high else low < x && x < high

/-- The better of the two neighbours of the double on the grid of multiples of
    `10 ^ exponent`, if one of them rounds to it. -/
def Interval.onGrid? (i : Interval) (exponent : Int) : Option Decimal :=
  let (up, down) := if exponent ≥ 0 then (tenTo exponent.toNat, 1) else (1, tenTo (-exponent).toNat)
  let d := i.value * down / (i.den * up)
  let rest := i.value * down % (i.den * up)
  let near := if 2 * rest ≤ i.den * up then [d, d + 1] else [d + 1, d]
  (near.find? fun x => i.holds (x * up) down).map fun x => ⟨x, exponent⟩

/-- A decimal without zeros at its end. -/
def Decimal.trim (d : Decimal) : Nat → Decimal
  | 0 => d
  | n + 1 => if d.digits % 10 = 0 && d.digits ≠ 0 then trim ⟨d.digits / 10, d.exponent + 1⟩ n else d

/-- The fewest digits that read back as `mantissa * 2 ^ exponent`. -/
def shortest (mantissa : Nat) (exponent : Int) : Decimal :=
  if mantissa = 0 then ⟨0, 0⟩
  else
    let i := interval mantissa exponent
    let p := leading i.value i.den
    match (List.range 17).findSome? fun (n : Nat) => i.onGrid? (p - 1 - n) with
    | some d => d.trim 17
    | none => ⟨0, 0⟩

/-- The sign of a number. -/
def sign (negative : Bool) : String := if negative then "-" else ""

/-- Digits with the point set after the first `point` of them, zeros filled in. -/
def Decimal.positional (d : Decimal) (fraction : Bool) : String :=
  let digits := toString d.digits
  let n := digits.length
  if d.exponent ≥ 0 then
    digits ++ "".pushn '0' d.exponent.toNat ++ (if fraction then ".0" else "")
  else
    let places := (-d.exponent).toNat
    if places < n then
      String.ofList (digits.toList.take (n - places)) ++ "." ++
        String.ofList (digits.toList.drop (n - places))
    else "0." ++ "".pushn '0' (places - n) ++ digits

/-- Positional text, however long; a whole number has a fraction of zero exactly if
    `fraction` asks for one. -/
def text (fraction : Bool) : Double → String
  | .nan => "NaN"
  | .infinite negative => sign negative ++ "inf"
  | .finite negative m e => sign negative ++ (shortest m e).positional fraction

/-- Positional text where the point falls within sixteen places before or five
    zeros after it, and a power of ten elsewhere. -/
def scientific : Double → String
  | .nan => "NaN"
  | .infinite negative => sign negative ++ "inf"
  | .finite negative m e =>
    let d := shortest m e
    let digits := toString d.digits
    let point : Int := digits.length + d.exponent
    if -5 < point && point ≤ 16 then sign negative ++ d.positional true
    else
      let lead := String.ofList (digits.toList.take 1)
      let rest := String.ofList (digits.toList.drop 1)
      sign negative ++ lead ++ (if rest.isEmpty then "" else "." ++ rest) ++ "e" ++
        toString (point - 1)

end Double

end Lintscope
