import TextArt.Binary64

/-!
# The shortest decimal that reads back

The reals that round to a given double form an interval around it. Among the decimals in that
interval, this module finds one with the fewest digits, and among those the nearest to the double.
For each number of digits only the two neighbours of the double on the decimal grid have to be
tried: if any point of a grid lies in the interval, so does one of them.
-/

namespace TextArt.Decimal

open Binary64 (Exact)

/-- The decimal `digits · 10 ^ exponent`. -/
structure Digits where
  /-- The digits as one whole number. -/
  digits : Nat
  /-- The power of ten of the last digit. -/
  exponent : Int
  deriving Repr, DecidableEq

/-- A positive double `value / unit` and the interval of reals that round to it. All four bounds
share the denominator `unit`. -/
structure Rounding where
  /-- The lower end of the interval. -/
  low : Nat
  /-- The double itself. -/
  value : Nat
  /-- The upper end of the interval. -/
  high : Nat
  /-- The common denominator. -/
  unit : Nat
  /-- Whether the two ends round to the double too. -/
  closed : Bool

/-- The rounding interval of a positive double. Just above a power of two the lower neighbour is
only half as far away; the ends belong to the interval when the significand is even. -/
def Rounding.of (x : Exact) : Rounding :=
  let scale := twoPow (x.exponent - 2).toNat
  let tight : Bool := x.mantissa = twoPow 52 && -1074 < x.exponent
  { low := (4 * x.mantissa - if tight then 1 else 2) * scale
    value := 4 * x.mantissa * scale
    high := (4 * x.mantissa + 2) * scale
    unit := twoPow (2 - x.exponent).toNat
    closed := x.mantissa % 2 = 0 }

/-- Whether `digits · 10 ^ exponent` lies in the interval. -/
def Rounding.admits (r : Rounding) (d : Digits) : Bool :=
  let point := d.digits * tenPow d.exponent.toNat * r.unit
  let stretch := tenPow (-d.exponent).toNat
  if r.closed then decide (r.low * stretch ≤ point) && decide (point ≤ r.high * stretch)
  else decide (r.low * stretch < point) && decide (point < r.high * stretch)

/-- The power of ten just below or at `num / den`: the first of a few candidates around the
logarithm whose successor is too large. -/
def decade (num den : Nat) : Int :=
  let estimate : Int := ((num.log2 : Int) - (den.log2 : Int)) * 30103 / 100000
  let above (e : Int) : Bool := num * tenPow (-(e + 1)).toNat < den * tenPow (e + 1).toNat
  (([-2, -1, 0, 1] : List Int).map (estimate + ·)).find? above |>.getD (estimate + 2)

/-- The better of the two neighbours on the grid `10 ^ exponent`, if any is admitted; a tie goes
to the even one. -/
def Rounding.onGrid? (r : Rounding) (exponent : Int) : Option Digits :=
  let num := r.value * tenPow (-exponent).toNat
  let den := r.unit * tenPow exponent.toNat
  let lower : Digits := ⟨num / den, exponent⟩
  let upper : Digits := ⟨num / den + 1, exponent⟩
  let nearest := if Binary64.roundDiv num den = num / den then lower else upper
  let other := if Binary64.roundDiv num den = num / den then upper else lower
  if r.admits nearest && decide (0 < nearest.digits) then some nearest
  else if r.admits other && decide (0 < other.digits) then some other
  else none

/-- Digits without trailing zeros. -/
def Digits.trim : Nat → Digits → Digits
  | 0, d => d
  | fuel + 1, d =>
    if d.digits % 10 = 0 ∧ d.digits ≠ 0 then Digits.trim fuel ⟨d.digits / 10, d.exponent + 1⟩ else d

/-- The shortest decimal that reads back as a positive double: seventeen digits always do. -/
def shortest (x : Exact) : Digits :=
  let r := Rounding.of x
  let top := decade r.value r.unit
  let tries := (List.range 17).filterMap fun (n : Nat) ↦ r.onGrid? (top - (n : Int))
  match tries with
  | d :: _ => d.trim 20
  | [] => ⟨x.mantissa, 0⟩

end TextArt.Decimal
