import TextArt.Number.Power
import TextArt.Text.Basic

/-!
# Exact readings of binary64 numbers

Every finite double is a fraction `±m · 2^q`. This module takes a double apart into that fraction,
compares it with whole numbers without rounding, and goes back: `ofRatio` is the double nearest to
a given fraction, ties to the even neighbour. All arithmetic in between is on `Nat` and `Int`, so
the only facts about `Float` it rests on are its bits.
-/

namespace TextArt.Binary64

/-! ## Taking a double apart -/

/-- A finite double read exactly: its size is `mantissa · 2 ^ exponent`. -/
structure Exact where
  /-- Whether the sign bit is set. -/
  negative : Bool
  /-- The whole-number significand, below `2 ^ 53`. -/
  mantissa : Nat
  /-- The power of two that scales it, at least `-1074`. -/
  exponent : Int
  deriving Repr, DecidableEq

/-- The exact reading of a double, or nothing for an infinity or a NaN. -/
def unpack? (x : Float) : Option Exact :=
  let bits : Nat := x.toBits.toNat
  let biased : Nat := bits / twoPow 52 % twoPow 11
  let fraction : Nat := bits % twoPow 52
  let negative := decide (twoPow 63 ≤ bits)
  if biased = 2047 then none
  else if biased = 0 then some ⟨negative, fraction, -1074⟩
  else some ⟨negative, twoPow 52 + fraction, (biased : Int) - 1075⟩

/-- The numerator of the exact reading over `Exact.denominator`. -/
def Exact.numerator (x : Exact) : Int :=
  let size : Nat := x.mantissa * twoPow x.exponent.toNat
  if x.negative then -size else size

/-- A power of two. -/
def Exact.denominator (x : Exact) : Nat := twoPow (-x.exponent).toNat

theorem Exact.denominator_pos (x : Exact) : 0 < x.denominator := Nat.two_pow_pos _

/-- The greatest whole number that is not above the value. -/
def Exact.floor (x : Exact) : Int := x.numerator / (x.denominator : Int)

/-- Whether the value is a whole number. -/
def Exact.isWhole (x : Exact) : Bool := x.numerator % (x.denominator : Int) = 0

/-- The order of a whole number and an exact reading. -/
def Exact.compareInt (n : Int) (x : Exact) : Ordering :=
  compare (n * (x.denominator : Int)) x.numerator

/-! ## Building a double -/

/-- The quotient `num / den` rounded to the nearest whole number, a half going to the even one. -/
def roundDiv (num den : Nat) : Nat :=
  let q := num / den
  let r := num % den
  if 2 * r < den then q
  else if den < 2 * r then q + 1
  else if q % 2 = 0 then q else q + 1

/-- The power of two to scale by so that `num / den` has 53 significant bits, or the least power
there is. -/
def scaleExponent (num den : Nat) : Int :=
  let k : Int := (num.log2 : Int) - (den.log2 : Int)
  let below : Bool := num * twoPow (-k).toNat < den * twoPow k.toNat
  max ((if below then k - 1 else k) - 52) (-1074)

/-- The bits of the nonnegative double nearest to `num / den`. A significand that rounds up to
`2 ^ 53` carries into the exponent field by itself, and what passes the greatest finite double is
infinity. -/
def magnitudeBits (num den : Nat) : Nat :=
  if num = 0 then 0
  else
    let e := scaleExponent num den
    let significand := roundDiv (num * twoPow (-e).toNat) (den * twoPow e.toNat)
    min ((e + 1074).toNat * twoPow 52 + significand) (2047 * twoPow 52)

/-- The double nearest to `± num / den`, ties to even. -/
def ofRatio (negative : Bool) (num den : Nat) : Float :=
  let bits := magnitudeBits num den
  Float.ofBits (UInt64.ofNat (if negative then twoPow 63 + bits else bits))

/-- The double nearest to a whole number, or nothing when that number is too large for any finite
double. -/
def ofInt? (n : Int) : Option Float :=
  let x := ofRatio (n < 0) n.natAbs 1
  if (unpack? x).isSome then some x else none

/-- The double nearest to `± digits · 10 ^ exponent`. Exponents that settle the answer by
themselves are cut off first, so that no huge power is computed. -/
def ofDecimal (negative : Bool) (digits : Nat) (exponent : Int) : Float :=
  let length : Int := (toString digits).length
  let exponent := if digits = 0 then 0 else max (min exponent (400 - length)) (-400 - length)
  ofRatio negative (digits * tenPow exponent.toNat) (tenPow (-exponent).toNat)

/-- The quiet NaN. -/
def nan : Float := Float.ofBits 0x7FF8000000000000

/-- Sixteen hexadecimal digits of the bits; all NaNs are written alike. -/
def hex (x : Float) : Text :=
  let digits := Nat.toDigits 16 (if x.isNaN then nan else x).toBits.toNat
  .ofString (.ofList (List.replicate (16 - digits.length) '0' ++ digits))

end TextArt.Binary64
