import Mathlib
import TextArt.Number

/-!
# Doubles bit by bit

The arithmetic of doubles is defined on what their bits unpack to: a sign, a mantissa and an
exponent. `Binary64.unpack?` takes the same parts out of the bits by division, so that the two
readings agree (`unpack_of_unpack?`). Packing goes the other way and gives the bits back
(`pack_unpack`), which says what a double is that has been put together from its bits, and so what a
whole number becomes as a double (`unpack?_of_ofInt?`).
-/

namespace TextArt.Binary64

open Float.Model (Format UnpackedFloat)
open Float.Model.UnpackedFloat (Sign)

/-! ## Unpacking -/

/-- The sign of a number. -/
def signOf (negative : Bool) : Sign := if negative then .negative else .positive

/-- The reading that comparisons of doubles go by. -/
def Exact.unpacked (e : Exact) : UnpackedFloat :=
  if h : 0 < e.mantissa then .finite (signOf e.negative) e.mantissa e.exponent h
  else .zero (signOf e.negative)

section Parts

variable (b : BitVec 64)

theorem toNat_unpackMantissa :
    (@UnpackedFloat.unpackMantissa .binary64 b).toNat = b.toNat % twoPow 52 := by
  simp [UnpackedFloat.unpackMantissa, BitVec.extractLsb_toNat]

theorem toNat_unpackExponent :
    (@UnpackedFloat.unpackExponent .binary64 b).toNat = b.toNat / twoPow 52 % twoPow 11 := by
  simp [UnpackedFloat.unpackExponent, BitVec.extractLsb_toNat, Nat.shiftRight_eq_div_pow]

theorem ofBitVec_unpackSign :
    Sign.ofBitVec (@UnpackedFloat.unpackSign .binary64 b) =
      signOf (decide (twoPow 63 ≤ b.toNat)) := by
  have hb : b.toNat < 2 ^ 64 := b.isLt
  have : (@UnpackedFloat.unpackSign .binary64 b).toNat = b.toNat / twoPow 63 := by
    simp [UnpackedFloat.unpackSign, BitVec.extractLsb_toNat, Nat.shiftRight_eq_div_pow]
    omega
  simp [Sign.ofBitVec, signOf, ← BitVec.toNat_inj, this]
  grind

theorem unpackExponent_eq_neg_one :
    @UnpackedFloat.unpackExponent .binary64 b = -1#_ ↔
      b.toNat / twoPow 52 % twoPow 11 = 2047 := by
  rw [← BitVec.toNat_inj, toNat_unpackExponent]
  rfl

theorem unpackExponent_eq_zero :
    @UnpackedFloat.unpackExponent .binary64 b = 0#_ ↔
      b.toNat / twoPow 52 % twoPow 11 = 0 := by
  rw [← BitVec.toNat_inj, toNat_unpackExponent]
  rfl

end Parts

private theorem append_one (f : BitVec 52) : (1#1 ++ f).toNat = twoPow 52 + f.toNat := by
  rw [BitVec.toNat_append, ← Nat.shiftLeft_add_eq_or_of_lt f.isLt]
  rfl

private theorem finite_congr {s t : Sign} {m n : Nat} {e f : Int} (hs : s = t) (hm : m = n)
    (he : e = f) (h : 0 < m) (h' : 0 < n) :
    UnpackedFloat.finite s m e h = UnpackedFloat.finite t n f h' := by
  subst hs hm he
  rfl

theorem unpack_top (b : BitVec 64) (h : b.toNat / twoPow 52 % twoPow 11 = 2047) :
    UnpackedFloat.unpack .binary64 b =
      if b.toNat % twoPow 52 = 0 then .infinity (signOf (decide (twoPow 63 ≤ b.toNat)))
      else .notANumber := by
  have hnil : @UnpackedFloat.unpackMantissa .binary64 b = 0#_ ↔
      b.toNat % twoPow 52 = 0 := by
    rw [← BitVec.toNat_inj, toNat_unpackMantissa]
    rfl
  unfold UnpackedFloat.unpack
  dsimp only
  rw [if_pos ((unpackExponent_eq_neg_one b).2 h), ofBitVec_unpackSign]
  exact ite_congr (propext hnil) (fun _ ↦ rfl) fun _ ↦ rfl

theorem unpack_bottom (b : BitVec 64) (h : b.toNat / twoPow 52 % twoPow 11 = 0) :
    UnpackedFloat.unpack .binary64 b =
      Exact.unpacked ⟨decide (twoPow 63 ≤ b.toNat), b.toNat % twoPow 52, -1074⟩ := by
  have htop : ¬b.toNat / twoPow 52 % twoPow 11 = 2047 := by rw [h]; decide
  unfold UnpackedFloat.unpack Exact.unpacked
  dsimp only
  rw [if_neg (mt (unpackExponent_eq_neg_one b).1 htop), if_pos ((unpackExponent_eq_zero b).2 h)]
  split
  · next hnil =>
    rw [← toNat_unpackMantissa, hnil, dif_neg (show ¬0 < (0#52).toNat by decide),
      ofBitVec_unpackSign]
  · next hne =>
    have hpos : 0 < b.toNat % twoPow 52 := by
      rw [← toNat_unpackMantissa]
      exact Nat.pos_of_ne_zero fun h0 ↦ hne (BitVec.eq_of_toNat_eq h0)
    rw [dif_pos hpos]
    refine finite_congr (ofBitVec_unpackSign b) (toNat_unpackMantissa b) ?_ _ _
    rw [toNat_unpackExponent, h]
    rfl

theorem unpack_middle (b : BitVec 64) (htop : b.toNat / twoPow 52 % twoPow 11 ≠ 2047)
    (hbottom : b.toNat / twoPow 52 % twoPow 11 ≠ 0) :
    UnpackedFloat.unpack .binary64 b = Exact.unpacked ⟨decide (twoPow 63 ≤ b.toNat),
      twoPow 52 + b.toNat % twoPow 52, (b.toNat / twoPow 52 % twoPow 11 : Nat) - 1075⟩ := by
  unfold UnpackedFloat.unpack Exact.unpacked
  dsimp only
  rw [if_neg (mt (unpackExponent_eq_neg_one b).1 htop),
    if_neg (mt (unpackExponent_eq_zero b).1 hbottom),
    dif_pos (Nat.add_pos_left (twoPow_pos 52) _)]
  refine finite_congr (ofBitVec_unpackSign b) ?_ ?_ _ _
  · rw [append_one, toNat_unpackMantissa]
  · rw [toNat_unpackExponent]
    rfl

/-- The two readings of a finite double agree. -/
theorem unpack_of_unpack? {x : Float} {e : Exact} (h : unpack? x = some e) :
    x.toModel.unpack = e.unpacked := by
  unfold unpack? at h
  dsimp only at h
  split at h
  · cases h
  · next htop =>
    split at h
    · next hbottom =>
      obtain rfl := Option.some.inj h
      exact unpack_bottom _ hbottom
    · next hbottom =>
      obtain rfl := Option.some.inj h
      exact unpack_middle _ htop hbottom

theorem unpack_of_unpack?_eq_none {x : Float} (h : unpack? x = none) :
    (∃ s, x.toModel.unpack = .infinity s) ∨ x.toModel.unpack = .notANumber := by
  unfold unpack? at h
  dsimp only at h
  split at h
  · next htop =>
    rw [Float.Model.unpack, unpack_top x.toModel.toBits.toBitVec htop]
    split
    · exact .inl ⟨_, rfl⟩
    · exact .inr rfl
  · split at h <;> cases h

/-- The bounds of what a double can be. -/
theorem unpack?_bounds {x : Float} {e : Exact} (h : unpack? x = some e) :
    e.mantissa < twoPow 53 ∧
      (e.exponent = -1074 ∨ -1074 ≤ e.exponent ∧ twoPow 52 ≤ e.mantissa) := by
  have hfraction := Nat.mod_lt x.toBits.toNat (twoPow_pos 52)
  have hdouble : twoPow 53 = 2 * twoPow 52 := rfl
  unfold unpack? at h
  dsimp only at h
  split at h
  · cases h
  · split at h
    · obtain rfl := Option.some.inj h
      dsimp only
      exact ⟨by omega, .inl rfl⟩
    · obtain rfl := Option.some.inj h
      dsimp only
      omega

/-! ## Packing -/

theorem toNat_packComponents (s : Sign) (e : BitVec 11) (m : BitVec 52) :
    (UnpackedFloat.packComponents .binary64 s e m).toNat =
      s.toBitVec.toNat * twoPow 63 + e.toNat * twoPow 52 + m.toNat := by
  have h1 : (s.toBitVec ++ e).toNat = s.toBitVec.toNat * twoPow 11 + e.toNat := by
    rw [BitVec.toNat_append, ← Nat.shiftLeft_add_eq_or_of_lt e.isLt, Nat.shiftLeft_eq]
  have h2 : (s.toBitVec ++ e ++ m).toNat = (s.toBitVec ++ e).toNat * twoPow 52 + m.toNat := by
    rw [BitVec.toNat_append, ← Nat.shiftLeft_add_eq_or_of_lt m.isLt, Nat.shiftLeft_eq]
  have hpow : twoPow 63 = twoPow 11 * twoPow 52 := rfl
  refine h2.trans ?_
  rw [h1, Nat.add_mul, hpow, Nat.mul_assoc]

private theorem toNat_toBitVec_signOf (negative : Bool) :
    (signOf negative).toBitVec.toNat = if negative then 1 else 0 := by
  cases negative <;> rfl

private theorem split_bits {n : Nat} (h : n < twoPow 64) :
    (if decide (twoPow 63 ≤ n) = true then 1 else 0) * twoPow 63 +
      n / twoPow 52 % twoPow 11 * twoPow 52 + n % twoPow 52 = n := by
  have h64 : twoPow 64 = 18446744073709551616 := rfl
  have h63 : twoPow 63 = 9223372036854775808 := rfl
  have h52 : twoPow 52 = 4503599627370496 := rfl
  have h11 : twoPow 11 = 2048 := rfl
  rw [h64] at h
  rw [h63, h52, h11]
  simp only [decide_eq_true_eq]
  split <;> omega

private theorem toNat_pack_of_lt (s : Sign) {m : Nat} (hpos : 0 < m) (hm : m < twoPow 52) :
    (UnpackedFloat.pack .binary64 (.finite s m (-1074) hpos)).toNat =
      s.toBitVec.toNat * twoPow 63 + m := by
  have hlog : m.log2 < 52 := (Nat.log2_lt (Nat.ne_of_gt hpos)).2 hm
  have hnormal : ¬m.log2 + 1 = Format.binary64.mantissaBits := by
    rw [show Format.binary64.mantissaBits = 53 from rfl]
    omega
  unfold UnpackedFloat.pack
  dsimp only
  rw [if_neg (by decide), if_neg hnormal]
  have hmantissa : (BitVec.ofNat 52 m).toNat = m := Nat.mod_eq_of_lt hm
  refine (toNat_packComponents _ _ _).trans ?_
  rw [hmantissa, BitVec.toNat_zero, Nat.zero_mul, Nat.add_zero]

private theorem toNat_pack_of_le (s : Sign) {m k : Nat} (hpos : 0 < twoPow 52 + m)
    (hm : m < twoPow 52) (hk : 0 < k) (hk' : k < 2047) :
    (UnpackedFloat.pack .binary64 (.finite s (twoPow 52 + m) (k - 1075) hpos)).toNat =
      s.toBitVec.toNat * twoPow 63 + k * twoPow 52 + m := by
  have hdouble : twoPow 53 = 2 * twoPow 52 := rfl
  have hlog : (twoPow 52 + m).log2 = 52 := by
    rw [Nat.log2_eq_iff (Nat.ne_of_gt hpos)]
    exact ⟨Nat.le_add_right _ _, show twoPow 52 + m < twoPow 53 by omega⟩
  have hbiased : ((k : Int) - 1075 + (Format.binary64.exponentBias : Nat) +
      (Format.binary64.mantissaBitsWithoutImplicit : Nat)).toNat = k := by
    rw [show Format.binary64.exponentBias = 1023 from rfl]
    dsimp only
    omega
  unfold UnpackedFloat.pack
  dsimp only
  have hexponent : (BitVec.ofNat 11 k).toNat = k := Nat.mod_eq_of_lt (by omega)
  have hmantissa : (BitVec.ofNat 52 (twoPow 52 + m)).toNat = m :=
    (Nat.add_mod_left (twoPow 52) m).trans (Nat.mod_eq_of_lt hm)
  rw [hbiased, if_neg (by omega), if_pos (by rw [hlog]; rfl)]
  refine (toNat_packComponents _ _ _).trans ?_
  rw [hexponent, hmantissa]

private theorem pack_unpack (b : BitVec 64)
    (h : b.toNat / twoPow 52 % twoPow 11 = 2047 → b.toNat % twoPow 52 = 0) :
    UnpackedFloat.pack .binary64 (UnpackedFloat.unpack .binary64 b) = b := by
  refine BitVec.eq_of_toNat_eq ?_
  have hsplit := split_bits b.isLt
  rw [← toNat_toBitVec_signOf] at hsplit
  by_cases htop : b.toNat / twoPow 52 % twoPow 11 = 2047
  · rw [unpack_top b htop, if_pos (h htop)]
    rw [htop, h htop] at hsplit
    refine (toNat_packComponents _ _ _).trans ?_
    exact hsplit
  by_cases hbottom : b.toNat / twoPow 52 % twoPow 11 = 0
  · rw [unpack_bottom b hbottom, Exact.unpacked]
    rw [hbottom] at hsplit
    dsimp only
    split
    · next hpos =>
      rw [toNat_pack_of_lt _ hpos (Nat.mod_lt _ (twoPow_pos 52))]
      rwa [Nat.zero_mul, Nat.add_zero] at hsplit
    · next hzero =>
      have h0 : b.toNat % twoPow 52 = 0 := by omega
      rw [h0] at hsplit
      refine (toNat_packComponents _ _ _).trans ?_
      exact hsplit
  · have hpos : 0 < twoPow 52 + b.toNat % twoPow 52 := Nat.add_pos_left (twoPow_pos 52) _
    have hmod := Nat.mod_lt (b.toNat / twoPow 52) (twoPow_pos 11)
    rw [unpack_middle b htop hbottom, Exact.unpacked, dif_pos hpos,
      toNat_pack_of_le _ hpos (Nat.mod_lt _ (twoPow_pos 52)) (Nat.pos_of_ne_zero hbottom) ?_]
    · exact hsplit
    · rw [show twoPow 11 = 2048 from rfl] at hmod htop ⊢
      omega

private theorem toBits_ofBits {n : Nat} (hn : n < twoPow 64)
    (h : n / twoPow 52 % twoPow 11 = 2047 → n % twoPow 52 = 0) :
    (Float.ofBits (UInt64.ofNat n)).toBits.toNat = n := by
  have hbits : (UInt64.ofNat n).toBitVec.toNat = n := Nat.mod_eq_of_lt hn
  have hpack := pack_unpack (UInt64.ofNat n).toBitVec (by rwa [hbits])
  have := congrArg BitVec.toNat hpack
  rw [hbits] at this
  exact this

/-! ## Whole numbers -/

private theorem le_roundDiv (num den : Nat) : num / den ≤ roundDiv num den := by
  unfold roundDiv
  dsimp only
  repeat' split
  all_goals omega

theorem scaleExponent_one {n : Nat} (hn : n ≠ 0) :
    scaleExponent n 1 = (n.log2 : Int) - 52 := by
  have hone : Nat.log2 1 = 0 := by decide
  have hbelow : ¬n * twoPow (-(n.log2 : Int)).toNat < 1 * twoPow (n.log2 : Int).toNat := by
    have hself : twoPow n.log2 ≤ n := Nat.log2_self_le hn
    have hzero : (-(n.log2 : Int)).toNat = 0 := by omega
    rw [hzero, Int.toNat_natCast, Nat.one_mul, show twoPow 0 = 1 from rfl, Nat.mul_one]
    omega
  unfold scaleExponent
  dsimp only
  rw [hone, Int.natCast_zero, Int.sub_zero, decide_eq_false hbelow, if_neg Bool.false_ne_true]
  omega

private theorem le_magnitudeBits {n : Nat} (hn : n ≠ 0) :
    min ((n.log2 + 1023) * twoPow 52) (2047 * twoPow 52) ≤ magnitudeBits n 1 := by
  have hself : twoPow n.log2 ≤ n := Nat.log2_self_le hn
  have hsignificand : twoPow 52 ≤ roundDiv (n * twoPow (-((n.log2 : Int) - 52)).toNat)
      (1 * twoPow ((n.log2 : Int) - 52).toNat) := by
    refine Nat.le_trans ?_ (le_roundDiv _ _)
    rw [Nat.one_mul, Nat.le_div_iff_mul_le (twoPow_pos _)]
    refine Nat.le_trans ?_ (Nat.mul_le_mul_right _ hself)
    simp only [twoPow, Nat.pow_eq, ← Nat.pow_add]
    exact Nat.pow_le_pow_right Nat.two_pos (by omega)
  have hexponent : ((n.log2 : Int) - 52 + 1074).toNat = n.log2 + 1022 := by omega
  unfold magnitudeBits
  rw [if_neg hn, scaleExponent_one hn]
  dsimp only
  rw [hexponent]
  have hstep : (n.log2 + 1023) * twoPow 52 = (n.log2 + 1022) * twoPow 52 + twoPow 52 := by
    rw [← Nat.succ_mul]
  omega

theorem magnitudeBits_le (num den : Nat) : magnitudeBits num den ≤ 2047 * twoPow 52 := by
  unfold magnitudeBits
  split
  · exact Nat.zero_le _
  · exact Nat.min_le_right _ _

/-- The parts of the bits of a double that is not a NaN. -/
theorem parts_of_magnitude {m : Nat} (hm : m ≤ 2047 * twoPow 52) (negative : Bool) :
    let bits := if negative then twoPow 63 + m else m
    bits < twoPow 64 ∧ bits / twoPow 52 % twoPow 11 = m / twoPow 52 ∧
      bits % twoPow 52 = m % twoPow 52 ∧ decide (twoPow 63 ≤ bits) = negative := by
  have h64 : twoPow 64 = 18446744073709551616 := rfl
  have h63 : twoPow 63 = 9223372036854775808 := rfl
  have h52 : twoPow 52 = 4503599627370496 := rfl
  have h11 : twoPow 11 = 2048 := rfl
  rw [h52] at hm
  rw [h64, h63, h52, h11]
  cases negative with
  | true =>
    rw [if_pos rfl]
    dsimp only
    rw [decide_eq_true_iff]
    omega
  | false =>
    rw [if_neg Bool.false_ne_true]
    dsimp only
    rw [decide_eq_false_iff_not]
    omega

/-- The bits of the double nearest to a ratio: those of its magnitude below its sign. -/
theorem toBits_ofRatio (negative : Bool) (num den : Nat) :
    (ofRatio negative num den).toBits.toNat =
      if negative then twoPow 63 + magnitudeBits num den else magnitudeBits num den := by
  have hle := magnitudeBits_le num den
  obtain ⟨hbits, hexponent, hfraction, -⟩ := parts_of_magnitude hle negative
  refine toBits_ofBits hbits ?_
  rw [hexponent, hfraction]
  intro htop
  rw [show twoPow 52 = 4503599627370496 from rfl] at *
  omega

/-- A finite double that is nearest to a whole number other than zero has the sign of that number
and its exponent or a greater one. -/
theorem unpack?_of_ofInt? {n : Int} {x : Float} (hn : n ≠ 0) (h : ofInt? n = some x) :
    ∃ e, unpack? x = some e ∧ e.negative = decide (n < 0) ∧ twoPow 52 ≤ e.mantissa ∧
      (n.natAbs.log2 : Int) - 52 ≤ e.exponent := by
  have hle := magnitudeBits_le n.natAbs 1
  have hge := le_magnitudeBits (Int.natAbs_ne_zero.2 hn)
  obtain ⟨-, hexponent, hfraction, hsign⟩ := parts_of_magnitude hle (decide (n < 0))
  unfold ofInt? at h
  dsimp only at h
  split at h
  · next hsome =>
    have hx : x = ofRatio (n < 0) n.natAbs 1 := (Option.some.inj h).symm
    have htoBits := toBits_ofRatio (decide (n < 0)) n.natAbs 1
    rw [← hx] at htoBits
    have hlow : ¬magnitudeBits n.natAbs 1 / twoPow 52 = 0 := by
      rw [show twoPow 52 = 4503599627370496 from rfl] at *
      omega
    rw [← hx] at hsome
    unfold unpack? at hsome ⊢
    rw [htoBits] at hsome ⊢
    dsimp only at hsome ⊢
    rw [hexponent] at hsome ⊢
    rw [hfraction] at hsome ⊢
    rw [hsign]
    split at hsome
    · cases hsome
    · next htop =>
      rw [if_neg htop, if_neg hlow]
      refine ⟨_, rfl, rfl, Nat.le_add_right _ _, ?_⟩
      dsimp only
      rw [show twoPow 52 = 4503599627370496 from rfl] at *
      omega
  · cases h

end TextArt.Binary64
