import TextArt.Text.Printable

/-!
# Quoted text

Text between quotes, as messages show it: single quotes, unless the text has a single quote and no
double quote. The quote in use and the backslash are escaped, line feed, carriage return and tab
have short escapes, and every other character that is not printable is written by its code point.
-/

namespace TextArt.Text.Quoted

/-- At least `width` hexadecimal digits in lower case. -/
def hexDigits (width n : Nat) : List CodePoint :=
  let digits := Nat.toDigits 16 n
  (List.replicate (width - digits.length) '0' ++ digits).map .char

/-- The quote that needs no escape, if there is one. -/
def quoteFor (s : List CodePoint) : CodePoint :=
  if s.contains (.char '\'') && !s.contains (.char '"') then '"' else '\''

/-- One character between the given quotes. -/
def escape (quote c : CodePoint) : List CodePoint :=
  if c = quote ∨ c = '\\' then ['\\', c]
  else if c = '\t' then ['\\', 't']
  else if c = '\n' then ['\\', 'n']
  else if c = '\r' then ['\\', 'r']
  else if isPrintable c then [c]
  else if c.toNat < 0x100 then '\\' :: 'x' :: hexDigits 2 c.toNat
  else if c.toNat < 0x10000 then '\\' :: 'u' :: hexDigits 4 c.toNat
  else '\\' :: 'U' :: hexDigits 8 c.toNat

/-- Text between quotes. -/
def encode (s : Text) : Text :=
  let quote := quoteFor s.toList
  Text.ofList (quote :: s.toList.flatMap (escape quote) ++ [quote])

end TextArt.Text.Quoted
