/-!
# Powers of two and of ten

Binary and decimal notations scale by these powers.
-/

namespace TextArt

/-- A power of two. -/
abbrev twoPow (n : Nat) : Nat := Nat.pow 2 n

/-- A power of ten. -/
abbrev tenPow (n : Nat) : Nat := Nat.pow 10 n

theorem twoPow_pos (n : Nat) : 0 < twoPow n := Nat.two_pow_pos n

end TextArt
