import TextArt.Fill.Pattern
import TextArt.Proofs.Binary64.Sum
import TextArt.Proofs.Number.Order

/-!
# What is drawn from a seed

Whatever the seed is, each draw shows 64 bits, the upper 53 of them over `2 ^ 53` are a double
exactly, and that double is below one. So a grid gets one number from zero up and below one for each
of its cells. Dots of density one take all cells, those of density zero none, and a greater density
takes every cell that a smaller one takes.
-/

namespace TextArt

namespace Binary64

private theorem floatOrder_one_of_exponent {x : Float} {e : Exact} (hx : unpack? x = some e)
    (he : e.exponent < -52) : floatOrder x 1 = some .lt := by
  by_cases hpos : 0 < e.mantissa
  · cases hneg : e.negative with
    | true => exact Number.floatOrder_of_negative hx hneg hpos Number.unpack?_one rfl
    | false =>
      rw [floatOrder_swap, Number.floatOrder_of_exponent Number.unpack?_one rfl (twoPow_pos 52) hx
        hneg he]
      rfl
  · have hzero : e.unpacked = .zero (signOf e.negative) := dif_neg hpos
    rw [Number.floatOrder_of_unpack? hx Number.unpack?_one, hzero]
    rfl

theorem magnitudeBits_lt_of_lt {k : Nat} (h : k < 2 ^ 53) :
    magnitudeBits k (twoPow 53) < 1023 * twoPow 52 := by
  have h52 : twoPow 52 = 4503599627370496 := rfl
  unfold magnitudeBits
  split
  · decide
  · next hne =>
    have hlog : k.log2 < 53 := (Nat.log2_lt hne).2 h
    have hden : (twoPow 53).log2 = 53 := Nat.log2_two_pow
    have hscale : scaleExponent k (twoPow 53) = (k.log2 : Int) - 105 := by
      have hbelow : ¬k * twoPow (-((k.log2 : Int) - 53)).toNat <
          twoPow 53 * twoPow ((k.log2 : Int) - 53).toNat := by
        have hup : ((k.log2 : Int) - 53).toNat = 0 := by omega
        have hsplit : k.log2 + (-((k.log2 : Int) - 53)).toNat = 53 := by omega
        rw [hup, show twoPow 0 = 1 from rfl, Nat.mul_one, Nat.not_lt]
        calc twoPow 53
            = 2 ^ k.log2 * 2 ^ (-((k.log2 : Int) - 53)).toNat := by rw [← Nat.pow_add, hsplit]
          _ ≤ k * 2 ^ (-((k.log2 : Int) - 53)).toNat :=
              Nat.mul_le_mul_right _ (Nat.log2_self_le hne)
      unfold scaleExponent
      dsimp only
      rw [hden, if_neg (by simpa using hbelow)]
      omega
    -- nothing is left over by the division
    have hsignificand : roundDiv (k * twoPow (-((k.log2 : Int) - 105)).toNat)
        (twoPow 53 * twoPow ((k.log2 : Int) - 105).toNat) ≤ k * 2 ^ (52 - k.log2) := by
      have hup : ((k.log2 : Int) - 105).toNat = 0 := by omega
      have hdown : (-((k.log2 : Int) - 105)).toNat = (52 - k.log2) + 53 := by omega
      rw [hup, hdown, show twoPow 0 = 1 from rfl, Nat.mul_one]
      refine roundDiv_le_of_le (twoPow_pos 53) (Nat.le_of_eq ?_)
      rw [Nat.mul_assoc]
      exact congrArg (k * ·) (Nat.pow_add 2 _ _)
    have hfits : k * 2 ^ (52 - k.log2) < 2 ^ 53 := by
      calc k * 2 ^ (52 - k.log2)
          < 2 ^ (k.log2 + 1) * 2 ^ (52 - k.log2) :=
            Nat.mul_lt_mul_of_pos_right Nat.lt_log2_self (Nat.two_pow_pos _)
        _ = 2 ^ 53 := by
            rw [← Nat.pow_add]
            congr 1
            omega
    rw [hscale]
    dsimp only
    rw [h52]
    generalize roundDiv _ _ = significand at *
    omega

private theorem ofRatio_lt_one {k : Nat} (h : k < 2 ^ 53) :
    floatOrder (ofRatio false k (twoPow 53)) 1 = some .lt := by
  have hbits := magnitudeBits_lt_of_lt h
  have hfield : magnitudeBits k (twoPow 53) / twoPow 52 < 1023 :=
    Nat.div_lt_of_lt_mul (Nat.mul_comm _ _ ▸ hbits)
  obtain ⟨e, he, hexponent⟩ := unpack?_ofRatio false (Nat.lt_trans hbits (by decide))
  refine floatOrder_one_of_exponent he ?_
  omega

private theorem ofRatio_not_lt_zero {k : Nat} (h : k < 2 ^ 53) :
    (Number.real (ofRatio false k (twoPow 53))).lt (.whole 0) = false := by
  refine Number.lt_whole_zero_of_toBits_lt ?_
  rw [toBits_ofRatio, if_neg Bool.false_ne_true]
  exact Nat.lt_trans (magnitudeBits_lt_of_lt h) (by decide)

end Binary64

namespace Scatter

private theorem turn_lt {n w t : Nat} (hn : n < 2 ^ w) (ht : t ≤ w) :
    n / 2 ^ t + n * 2 ^ (w - t) % 2 ^ w < 2 ^ w := by
  have hw : 2 ^ w = 2 ^ t * 2 ^ (w - t) := by rw [← Nat.pow_add, Nat.add_sub_cancel' ht]
  have hhigh : n / 2 ^ t < 2 ^ (w - t) := Nat.div_lt_of_lt_mul (hw ▸ hn)
  have hlow : n % 2 ^ t + 1 ≤ 2 ^ t := Nat.mod_lt n (Nat.two_pow_pos t)
  calc n / 2 ^ t + n * 2 ^ (w - t) % 2 ^ w
      = n / 2 ^ t + n % 2 ^ t * 2 ^ (w - t) := by rw [hw, Nat.mul_mod_mul_right]
    _ < (n % 2 ^ t + 1) * 2 ^ (w - t) := by rw [Nat.succ_mul]; omega
    _ ≤ 2 ^ t * 2 ^ (w - t) := Nat.mul_le_mul_right _ hlow
    _ = 2 ^ w := hw.symm

namespace Generator

private theorem state_step_lt (g : Generator) : g.step.state < twoPow 128 :=
  Nat.mod_lt _ (twoPow_pos 128)

private theorem bits_lt {g : Generator} (h : g.state < twoPow 128) : g.bits < twoPow 64 := by
  have hfolded : (g.state / twoPow 64) ^^^ (g.state % twoPow 64) < 2 ^ 64 := by
    refine Nat.xor_lt_two_pow ?_ (Nat.mod_lt _ (twoPow_pos 64))
    exact Nat.div_lt_of_lt_mul (Nat.lt_of_lt_of_eq h (Nat.pow_add 2 64 64))
  have hturn : g.state / twoPow 122 < 64 := by
    exact Nat.div_lt_of_lt_mul (Nat.lt_of_lt_of_eq h (Nat.pow_add 2 122 6))
  exact turn_lt hfolded (Nat.le_of_lt hturn)

@[simp] theorem length_draws (g : Generator) (n : Nat) : (g.draws n).length = n := by
  induction n generalizing g with
  | zero => rfl
  | succ n ih => rw [draws, List.length_cons, ih]

private theorem eq_ofRatio_of_mem_draws {g : Generator} {n : Nat} {x : Float} (hx : x ∈ g.draws n) :
    ∃ k < 2 ^ 53, x = Binary64.ofRatio false k (twoPow 53) := by
  induction n generalizing g with
  | zero => cases hx
  | succ n ih =>
    rcases List.mem_cons.1 hx with rfl | hx
    · exact ⟨_, Nat.div_lt_of_lt_mul
        (Nat.lt_of_lt_of_eq (bits_lt g.state_step_lt) (Nat.pow_add 2 11 53)), rfl⟩
    · exact ih hx

end Generator

theorem exists_field (seed : List UInt32) {width height row col : Nat} (hr : row < height)
    (hc : col < width) : ∃ x, (field seed width height)[row * width + col]? = some x ∧
      (Number.real x).lt (.whole 0) = false ∧ floatOrder x 1 = some .lt := by
  have hplace : row * width + col < width * height := by
    calc row * width + col < (row + 1) * width := by rw [Nat.succ_mul]; omega
      _ ≤ width * height := by rw [Nat.mul_comm]; exact Nat.mul_le_mul_left _ hr
  have hlength : row * width + col < ((Generator.ofSeed seed).draws (width * height)).length := by
    rwa [Generator.length_draws]
  obtain ⟨k, hk, hx⟩ := Generator.eq_ofRatio_of_mem_draws (List.getElem_mem hlength)
  refine ⟨Binary64.ofRatio false k (twoPow 53), ?_, Binary64.ofRatio_not_lt_zero hk,
    Binary64.ofRatio_lt_one hk⟩
  rw [field, List.getElem?_toArray, List.getElem?_eq_getElem hlength, hx]

end Scatter

namespace Pattern

variable {words : List UInt32} {width height row col : Nat}

/-- **Density one.** Dots of density one take every cell of the grid. -/
theorem dotMask_of_same_one {density : Number} (h : density.same (.whole 1) = true)
    (words : List UInt32) (hr : row < height) (hc : col < width) :
    dotMask width (Scatter.field words width height) density row col = true := by
  obtain ⟨x, hx, -, hlt⟩ := Scatter.exists_field words hr hc
  rw [dotMask, hx]
  exact Number.lt_of_same_one h hlt

/-- **Density zero.** Dots of density zero take no cell. -/
theorem dotMask_of_same_zero {density : Number} (h : density.same (.whole 0) = true)
    (words : List UInt32) (hr : row < height) (hc : col < width) :
    dotMask width (Scatter.field words width height) density row col = false := by
  obtain ⟨x, hx, hlow, -⟩ := Scatter.exists_field words hr hc
  rw [dotMask, hx]
  exact Number.not_lt_of_same_zero h hlow

/-- Dots of a greater density take all that dots of a smaller one take. -/
theorem dotMask_mono {field : Array Float} {density density' : Number} (h : density.InUnit)
    (h' : density'.InUnit) (hle : density.le density' = true)
    (hmask : dotMask width field density row col = true) :
    dotMask width field density' row col = true := by
  obtain ⟨y, hy⟩ := Number.exists_alike_real h
  obtain ⟨y', hy'⟩ := Number.exists_alike_real h'
  unfold dotMask at *
  split at hmask
  · next x hx => exact (Number.Alike.refl (.real x)).lt_of_lt_of_le hy hy' hmask hle
  · cases hmask

end Pattern

end TextArt
