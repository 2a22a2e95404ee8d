import TextArt.Decimal.Shortest

/-!
# Layouts of decimal numbers

How a double is written: which exponents are written out positionally, what an exponent looks like,
and the names of the values that have no digits. A layout is a value, so each format of the library
states its own decisions in one place.
-/

namespace TextArt.Decimal

/-- The decisions of a number format. -/
structure Layout where
  /-- The least decimal exponent written positionally. -/
  least : Int
  /-- The first decimal exponent that is too large to be written positionally. -/
  limit : Int
  /-- The least number of digits of an exponent. -/
  exponentDigits : Nat
  /-- The text of a NaN. -/
  nan : String
  /-- The text of infinity, without its sign. -/
  infinity : String

/-- The digits of a whole number, padded with zeros on the left. -/
def padded (width n : Nat) : String :=
  let digits := toString n
  String.ofList (List.replicate (width - digits.length) '0') ++ digits

/-- Positional notation of `0.d₁d₂… · 10 ^ point`, always with a digit on both sides of the
point. -/
def positional (digits : List Char) (point : Int) : String :=
  let whole := digits.take point.toNat
  let whole := whole ++ List.replicate (point.toNat - digits.length) '0'
  let part := List.replicate (-point).toNat '0' ++ digits.drop point.toNat
  String.ofList (if whole.isEmpty then ['0'] else whole) ++ "."
    ++ String.ofList (if part.isEmpty then ['0'] else part)

/-- Scientific notation: one digit, a point if more follow, and a signed exponent. -/
def Layout.scientific (layout : Layout) (digits : List Char) (exponent : Int) : String :=
  let tail := digits.drop 1
  String.ofList (digits.take 1)
    ++ (if tail.isEmpty then "" else "." ++ String.ofList tail)
    ++ (if exponent < 0 then "e-" else "e+") ++ padded layout.exponentDigits exponent.natAbs

/-- The text of a double: the fewest digits that read back. -/
def Layout.write (layout : Layout) (x : Float) : String :=
  match Binary64.unpack? x with
  | none =>
    if x.isNaN then layout.nan else if x < 0 then "-" ++ layout.infinity else layout.infinity
  | some e =>
    let size :=
      if e.mantissa = 0 then "0.0"
      else
        let d := shortest e
        let digits := (toString d.digits).toList
        let exponent := d.exponent + (digits.length : Int) - 1
        if layout.least ≤ exponent ∧ exponent < layout.limit then positional digits (exponent + 1)
        else layout.scientific digits exponent
    if e.negative then "-" ++ size else size

end TextArt.Decimal
