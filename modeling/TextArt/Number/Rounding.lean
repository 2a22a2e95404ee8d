import TextArt.Failure

/-!
# Rounding to whole numbers

Coordinates are rounded to the nearest whole number, a half going up: the sum with one half is taken
in binary64 arithmetic, and the floor of that sum exactly.
-/

namespace TextArt

/-- The whole number nearest to a finite double, a half going up; zero for the others. -/
def roundHalfUp (x : Float) : Int :=
  match Binary64.unpack? (x + 0.5) with
  | some e => e.floor
  | none => 0

/-- The whole number nearest to a number, a half going up. Infinite numbers and whole numbers that
are too large for a double overflow, and a NaN is out of range. -/
def Number.roundHalfUp (n : Number) : Outcome Int :=
  match n.toFloat? with
  | none => .error .overflow
  | some x =>
    match Binary64.unpack? (x + 0.5) with
    | some e => .ok e.floor
    | none => .error (if (x + 0.5).isNaN then .badValue else .overflow)

/-- The double nearest to a whole number. -/
def floatOfInt (n : Int) : Float := Binary64.ofRatio (n < 0) n.natAbs 1

/-- The double nearest to the quotient of two whole numbers, the second one positive. -/
def floatOfRatio (num : Int) (den : Nat) : Float := Binary64.ofRatio (num < 0) num.natAbs den

end TextArt
