import TextArt.Text.Basic

/-!
# Blank characters

Two sets of characters that count as blank: the white space of Unicode, and the wider set that also
has the four information separators U+001C to U+001F.
-/

namespace TextArt.Text

/-- White space in the sense of Unicode. -/
def isWhite (c : CodePoint) : Bool :=
  let n := c.toNat
  decide (9 ≤ n ∧ n ≤ 13) || n == 32 || n == 0x85 || n == 0xA0 || n == 0x1680
    || decide (0x2000 ≤ n ∧ n ≤ 0x200A) || n == 0x2028 || n == 0x2029 || n == 0x202F
    || n == 0x205F || n == 0x3000

/-- White space or an information separator. -/
def isBlank (c : CodePoint) : Bool := isWhite c || decide (0x1C ≤ c.toNat ∧ c.toNat ≤ 0x1F)

/-- Characters without the leading and trailing ones of a class. -/
def trimBy (p : CodePoint → Bool) (s : List CodePoint) : List CodePoint :=
  ((s.dropWhile p).reverse.dropWhile p).reverse

end TextArt.Text
