import TextArt.Binary64
import TextArt.Text.Blank
import TextArt.Text.Digit

/-!
# Numbers written as text

Readers for whole and binary64 numbers in decimal notation. Single underscores may stand between
digits. Digits are ASCII digits here; a text with digits of other scripts is brought into this form
by `Text.asciiDigits`.
-/

namespace TextArt

open Text (digitsValue digitLimit)

/-! ## Digits and signs -/

/-- Digits with single underscores between them, without the underscores. -/
def plainDigits? : List CodePoint → Option (List CodePoint)
  | [] => none
  | c :: rest =>
    if c.isDigit then
      match rest with
      | [] => some [c]
      | .char '_' :: d :: more =>
        if d.isDigit then (plainDigits? (d :: more)).map (c :: ·) else none
      | rest => (plainDigits? rest).map (c :: ·)
    else none

/-- The sign at the start of a text, and the rest. -/
def takeSign : List CodePoint → Bool × List CodePoint
  | .char '-' :: rest => (true, rest)
  | .char '+' :: rest => (false, rest)
  | s => (false, s)

/-! ## Whole numbers -/

/-- What reading a whole number from a text comes to. -/
inductive IntReading where
  /-- A number. -/
  | number (n : Int)
  /-- Too many digits. -/
  | tooLong
  /-- No number. -/
  | malformed
  deriving DecidableEq, Repr

/-- Reads a whole number: a sign that may be left out, and digits. -/
def IntReading.ofChars (s : List CodePoint) : IntReading :=
  let (negative, body) := takeSign s
  match plainDigits? body with
  | none => malformed
  | some digits =>
    if digitLimit < digits.length then tooLong
    else
      let n : Int := digitsValue digits
      number (if negative then -n else n)

/-! ## Binary64 numbers -/

/-- Splits at the first exponent letter. -/
def splitExponent (s : List CodePoint) : List CodePoint × Option (List CodePoint) :=
  let (mantissa, tail) := s.span fun c ↦ c ≠ .char 'e' && c ≠ .char 'E'
  match tail with
  | [] => (mantissa, none)
  | _ :: exponent => (mantissa, some exponent)

/-- Digits that may be left out. -/
def maybeDigits? (s : List CodePoint) : Option (List CodePoint) :=
  if s.isEmpty then some [] else plainDigits? s

/-- Reads a positive decimal number with an exponent that may be left out. -/
def readDecimal? (negative : Bool) (s : List CodePoint) : Option Float := do
  let (mantissa, exponent) := splitExponent s
  let (whole, tail) := mantissa.span (· ≠ .char '.')
  let whole ← maybeDigits? whole
  let part ← maybeDigits? (tail.drop 1)
  if whole.isEmpty && part.isEmpty then none
  else do
    let scale : Int ← match exponent with
      | none => some 0
      | some e =>
        let (down, digits) := takeSign e
        (plainDigits? digits).map fun d ↦ if down then -(digitsValue d : Int) else digitsValue d
    some (Binary64.ofDecimal negative (digitsValue (whole ++ part)) (scale - (part.length : Int)))

/-- Text in small ASCII letters; nothing if not all of it is characters. -/
def asciiLower? (s : List CodePoint) : Option String :=
  (Text.ofList s).toString?.map fun t ↦ String.ofList (t.toList.map Char.toLower)

/-- Reads a binary64 number: a sign, a decimal number, or the name of infinity or of a NaN in any
case. -/
def floatOfChars? (s : List CodePoint) : Option Float :=
  let (negative, body) := takeSign s
  match asciiLower? body with
  | some "inf" | some "infinity" => some (if negative then -1.0 / 0.0 else 1.0 / 0.0)
  | some "nan" => some Binary64.nan
  | _ => readDecimal? negative body

/-! ## Digits of any script -/

/-- Reads a whole number in digits of any script, with blanks around it. -/
def readWhole (s : List CodePoint) : IntReading :=
  IntReading.ofChars (Text.trimBy Text.isWhite (Text.asciiDigits s))

/-- Reads a binary64 number in digits of any script, with blanks around it. -/
def readReal? (s : List CodePoint) : Option Float :=
  floatOfChars? (Text.trimBy Text.isWhite (Text.asciiDigits s))

end TextArt
