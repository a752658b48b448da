import Lintscope.Json.Value
import Lintscope.Number.Double

/-!
# The double of a decimal

The nearest double of a number in digits is sought by scaling the digits with
powers of ten, one rounding at a time: as quick as it is close, though not
always the very nearest. A number beyond the range of doubles has none.
-/

namespace Lintscope.Decimal

/-- The largest power of ten that doubles are scaled by at once. -/
def step : Nat := 308

/-- The double nearest to a power of ten. -/
def power (n : Nat) : Double := .ofDecimal false 1 n

/-- Scales a double by a power of ten, in at most `fuel` steps. -/
def scale : Nat → Double → Int → Option Double
  | 0, _, _ => none
  | fuel + 1, x, exponent =>
    if exponent.natAbs ≤ step then
      let p := power exponent.natAbs
      let y := if exponent < 0 then x.divideBy p else x.scaleBy p
      if y.isFinite then some y else none
    else if x.isZero then some x
    else if 0 ≤ exponent then none
    else scale fuel (x.divideBy (power step)) (exponent + step)

/-- The double that a number is taken for. -/
def double? (d : Decimal) : Option Double :=
  scale (d.exponent.natAbs / step + 2) (.round d.negative d.digits 1) d.exponent

end Lintscope.Decimal
