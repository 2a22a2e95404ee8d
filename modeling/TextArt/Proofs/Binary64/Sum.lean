import TextArt.Number.Rounding
import TextArt.Proofs.Binary64

/-!
# Sums that stay finite

The sum of a finite double and a small one is finite (`IsFinite.add`), even at the upper end of the
range: there the exact sum is less than half a unit away from the greatest double, so that rounding
takes it back. The small numbers are those a walk along a line adds: its increments are not above
one (`isSmall_floatOfRatio`), and one half is added to round. A finite double that has been rounded
to a whole number is a finite double again (`ofInt?_floor`).
-/

namespace TextArt.Binary64

open Float.Model (Format UnpackedFloat)
open Float.Model.UnpackedFloat (Sign ExtendedMantissa)

/-- The double is neither an infinity nor a NaN. -/
def IsFinite (x : Float) : Prop := ∃ e, unpack? x = some e

/-- The double is finite, and its size is below four. -/
def IsSmall (x : Float) : Prop := ∃ e, unpack? x = some e ∧ e.exponent ≤ -51

/-! ## Finite results -/

/-- A result that is packed to a finite double: zero, or a number whose exponent a double has. -/
def InRange : UnpackedFloat → Prop
  | .zero _ => True
  | .finite _ _ e _ => e ≤ 971
  | _ => False

theorem exponent_le {x : Float} {e : Exact} (h : unpack? x = some e) : e.exponent ≤ 971 := by
  have hfield := Nat.mod_lt (x.toBits.toNat / twoPow 52) (twoPow_pos 11)
  have h11 : twoPow 11 = 2048 := rfl
  unfold unpack? at h
  dsimp only at h
  split at h
  · cases h
  · split at h
    · obtain rfl := Option.some.inj h
      exact Int.le_of_lt (by decide : (-1074 : Int) < 971)
    · obtain rfl := Option.some.inj h
      dsimp only
      omega

private theorem unpackExponent_pack_ne {u : UnpackedFloat} (hu : InRange u) :
    UnpackedFloat.unpackExponent (UnpackedFloat.pack .binary64 u) ≠ -1#_ := by
  cases u with
  | infinity s => cases hu
  | notANumber => cases hu
  | zero s =>
    rw [UnpackedFloat.pack, UnpackedFloat.packedZero, UnpackedFloat.unpackExponent_packComponents]
    decide
  | finite s m e hm =>
    have he : e ≤ 971 := hu
    have hbias : Format.binary64.exponentBias = 1023 := rfl
    unfold UnpackedFloat.pack
    dsimp only
    rw [hbias, if_neg (by omega)]
    split
    · rw [UnpackedFloat.unpackExponent_packComponents, Ne, ← BitVec.toNat_inj, BitVec.toNat_ofNat]
      have hones : (-1#11).toNat = 2047 := rfl
      rw [hones]
      omega
    · rw [UnpackedFloat.unpackExponent_packComponents]
      decide

private theorem isFinite_of_pack {x : Float} {u : UnpackedFloat}
    (hx : x.toModel = Float.Model.pack u) (hu : InRange u) : IsFinite x := by
  have hbits : x.toBits.toBitVec = UnpackedFloat.pack .binary64 u := by
    have hbits : x.toBits = x.toModel.toBits := rfl
    rw [hbits, hx]
    rfl
  have hfield : x.toBits.toNat / twoPow 52 % twoPow 11 ≠ 2047 := by
    intro htop
    refine unpackExponent_pack_ne hu ?_
    rw [← hbits]
    exact (unpackExponent_eq_neg_one _).2 htop
  unfold IsFinite unpack?
  dsimp only
  rw [if_neg hfield]
  split
  · exact ⟨_, rfl⟩
  · exact ⟨_, rfl⟩

/-! ## Rounding at the upper end -/

private theorem mantissa_repeat (em : ExtendedMantissa) (n : Nat) :
    (n.repeat ExtendedMantissa.shiftRightOne em).mantissa = em.mantissa / 2 ^ n := by
  induction n with
  | zero => simp [Nat.repeat]
  | succ n ih =>
    rw [Nat.repeat, ExtendedMantissa.shiftRightOne, ih, Nat.div_div_eq_div_mul, Nat.pow_succ]

theorem roundedMantissa_le (em : ExtendedMantissa) : em.roundedMantissa ≤ em.mantissa + 1 := by
  obtain ⟨m, round, sticky⟩ := em
  have hodd := Nat.mod_lt m Nat.two_pos
  cases round <;> cases sticky <;>
    simp only [ExtendedMantissa.roundedMantissa, ExtendedMantissa.accuracy,
      UnpackedFloat.Accuracy.roundToNearestEven] <;> omega

private theorem roundedMantissa_shiftRightOne_le (em : ExtendedMantissa) :
    em.shiftRightOne.roundedMantissa ≤ (em.mantissa + 1) / 2 := by
  by_cases heven : em.mantissa % 2 = 0
  · have hround : em.shiftRightOne.roundedMantissa = em.mantissa / 2 := by
      rw [ExtendedMantissa.shiftRightOne, heven]
      cases em.roundBit || em.stickyBit <;> rfl
    omega
  · refine Nat.le_trans (roundedMantissa_le _) ?_
    rw [ExtendedMantissa.shiftRightOne]
    dsimp only
    omega

/-- The bound below which a size `m * 2 ^ e` is rounded to a finite double: half a unit above the
greatest one. -/
def BelowOverflow (m : Nat) (e : Int) : Prop :=
  e ≤ 970 ∧ m < (2 ^ 54 - 1) * 2 ^ (970 - e).toNat

theorem log2_lt_of_lt {m n : Nat} (hn : 0 < n) (h : m < 2 ^ n) : m.log2 < n := by
  by_cases hm : m = 0
  · rwa [hm, show Nat.log2 0 = 0 from rfl]
  · exact (Nat.log2_lt hm).2 h

private theorem BelowOverflow.log2_lt {m : Nat} {e : Int} (h : BelowOverflow m e) :
    (m.log2 : Int) < 1024 - e := by
  obtain ⟨he, hm⟩ := h
  have hpow : 2 ^ 54 * 2 ^ (970 - e).toNat = 2 ^ (1024 - e).toNat := by
    rw [← Nat.pow_add]
    congr 1
    omega
  have hlt : m < 2 ^ (1024 - e).toNat := by
    rw [← hpow]
    exact Nat.lt_of_lt_of_le hm (Nat.mul_le_mul_right _ (Nat.sub_le _ _))
  have := log2_lt_of_lt (by omega) hlt
  omega

private theorem log2_roundedMantissa {m : Nat} {e : Int} (h : BelowOverflow m e) :
    let shifted := UnpackedFloat.shiftToTargetExponent .binary64 m e .exact
    shifted.2 ≤ 971 ∧ (shifted.1.roundedMantissa.log2 : Int) ≤ 1023 - shifted.2 := by
  intro shifted
  have hlog := h.log2_lt
  obtain ⟨he, hm⟩ := h
  set target := max ((m.log2 : Int) + 1 + e - 53) (-1074) with htarget
  set k := (target - e).toNat with hk
  have hexponent : shifted.2 = e + k := rfl
  have hmantissa : shifted.1 = k.repeat ExtendedMantissa.shiftRightOne ⟨m, false, false⟩ := rfl
  refine ⟨by omega, ?_⟩
  by_cases htop : e + k = 971
  · -- the last bit is decided by the one before it, and that one is not set at the upper end
    obtain ⟨j, hj⟩ : ∃ j, k = j + 1 := ⟨k - 1, by omega⟩
    have hbits : (970 - e).toNat = j := by omega
    have hhalf : m / 2 ^ j ≤ 2 ^ 54 - 2 := by
      rw [hbits] at hm
      have := Nat.div_lt_of_lt_mul (Nat.mul_comm _ _ ▸ hm)
      omega
    have hrounded : shifted.1.roundedMantissa ≤ (m / 2 ^ j + 1) / 2 := by
      rw [hmantissa, hj, Nat.repeat]
      refine Nat.le_trans (roundedMantissa_shiftRightOne_le _) ?_
      rw [mantissa_repeat]
    have := log2_lt_of_lt (by decide : 0 < 53) (show shifted.1.roundedMantissa < 2 ^ 53 by omega)
    omega
  · -- below the upper end there is room for a carry
    have hsmall : m / 2 ^ k < 2 ^ 53 := by
      refine Nat.div_lt_of_lt_mul ?_
      rw [← Nat.pow_add]
      exact Nat.lt_of_lt_of_le Nat.lt_log2_self (Nat.pow_le_pow_right Nat.two_pos (by omega))
    have hrounded : shifted.1.roundedMantissa ≤ m / 2 ^ k + 1 := by
      rw [hmantissa]
      refine Nat.le_trans (roundedMantissa_le _) ?_
      rw [mantissa_repeat]
    have := log2_lt_of_lt (by decide : 0 < 54) (show shifted.1.roundedMantissa < 2 ^ 54 by omega)
    omega

private theorem inRange_roundWithAccuracy (s : Sign) {m : Nat} {e : Int} (h : BelowOverflow m e) :
    InRange (UnpackedFloat.roundWithAccuracy .binary64 s m e .exact) := by
  obtain ⟨hexponent, hlog⟩ := log2_roundedMantissa h
  unfold UnpackedFloat.roundWithAccuracy
  dsimp only at hexponent hlog ⊢
  split
  · trivial
  · -- the second shift makes room for a carry
    generalize (UnpackedFloat.shiftToTargetExponent .binary64 m e .exact).2 = e' at *
    generalize (UnpackedFloat.shiftToTargetExponent .binary64 m e .exact).1.roundedMantissa = r at *
    change e' + ((max ((r.log2 : Int) + 1 + e' - 53) (-1074) - e').toNat : Int) ≤ 971
    omega

private theorem BelowOverflow.shiftLeft {m : Nat} {e : Int} (h : BelowOverflow m e) (k : Nat) :
    BelowOverflow (m <<< k) (e - k) := by
  obtain ⟨he, hm⟩ := h
  have hbits : (970 - (e - k)).toNat = (970 - e).toNat + k := by omega
  refine ⟨by omega, ?_⟩
  rw [hbits, Nat.pow_add, ← Nat.mul_assoc, Nat.shiftLeft_eq]
  exact Nat.mul_lt_mul_of_pos_right hm (Nat.two_pow_pos k)

private theorem inRange_round (s : Sign) {m : Nat} {e : Int} (h : BelowOverflow m e) :
    InRange (UnpackedFloat.round .binary64 s m e) :=
  inRange_roundWithAccuracy s (h.shiftLeft _)

private theorem inRange_normalize {m : Int} {e : Int} (zeroSign : Sign)
    (h : BelowOverflow m.natAbs e) :
    InRange (UnpackedFloat.normalize .binary64 m e zeroSign) := by
  unfold UnpackedFloat.normalize
  split
  · next hlt =>
    have hneg : (-m).toNat = m.natAbs := by
      have := Int.compare_eq_lt.1 hlt
      omega
    rw [hneg]
    exact inRange_round _ h
  · trivial
  · next hgt =>
    have hpos : m.toNat = m.natAbs := by
      have := Int.compare_eq_gt.1 hgt
      omega
    rw [hpos]
    exact inRange_round _ h

/-! ## Sums -/

private theorem belowOverflow_add {m n : Nat} {e f : Int} (hm : m < 2 ^ 53) (he : e ≤ 971)
    (hn : n < 2 ^ 53) (hf : f ≤ -51) :
    BelowOverflow (m <<< (e - min e f).toNat + n <<< (f - min e f).toNat) (min e f) := by
  obtain ⟨k, hk⟩ : ∃ k : Nat, min e f = 970 - k := ⟨(970 - min e f).toNat, by omega⟩
  rw [hk]
  refine ⟨by omega, ?_⟩
  have hbits : (970 - (970 - (k : Int))).toNat = k := by omega
  rw [hbits, Nat.shiftLeft_eq, Nat.shiftLeft_eq]
  have hlarge : m * 2 ^ (e - (970 - (k : Int))).toNat ≤ (2 ^ 54 - 2) * 2 ^ k := by
    calc m * 2 ^ (e - (970 - (k : Int))).toNat
        ≤ (2 ^ 53 - 1) * 2 ^ (k + 1) :=
          Nat.mul_le_mul (by omega) (Nat.pow_le_pow_right Nat.two_pos (by omega))
      _ = (2 ^ 54 - 2) * 2 ^ k := by rw [Nat.pow_succ]; omega
  have hsmall : n * 2 ^ (f - (970 - (k : Int))).toNat < 2 ^ k := by
    calc n * 2 ^ (f - (970 - (k : Int))).toNat
        < 2 ^ 53 * 2 ^ (f - (970 - (k : Int))).toNat :=
          Nat.mul_lt_mul_of_pos_right hn (Nat.two_pow_pos _)
      _ ≤ 2 ^ k := by
          rw [← Nat.pow_add]
          exact Nat.pow_le_pow_right Nat.two_pos (by omega)
  omega

private theorem natAbs_apply (s : Sign) (n : Nat) : (s.apply n).natAbs = n := by
  cases s
  · exact Int.natAbs_neg n
  · rfl

private theorem BelowOverflow.of_le {m n : Nat} {e : Int} (h : BelowOverflow n e) (hle : m ≤ n) :
    BelowOverflow m e :=
  ⟨h.1, Nat.lt_of_le_of_lt hle h.2⟩

private theorem inRange_add {a b : Exact} (ha : a.mantissa < 2 ^ 53) (ha' : a.exponent ≤ 971)
    (hb : b.mantissa < 2 ^ 53) (hb' : b.exponent ≤ -51) :
    InRange (UnpackedFloat.add .binary64 a.unpacked b.unpacked) := by
  have hb971 : b.exponent ≤ 971 := by omega
  by_cases hapos : 0 < a.mantissa
  · by_cases hbpos : 0 < b.mantissa
    · rw [Exact.unpacked, Exact.unpacked, dif_pos hapos, dif_pos hbpos]
      refine inRange_normalize _ ((belowOverflow_add ha ha' hb hb').of_le ?_)
      refine Nat.le_trans (Int.natAbs_add_le _ _) ?_
      rw [natAbs_apply, natAbs_apply]
    · have hzero : b.unpacked = .zero (signOf b.negative) := dif_neg hbpos
      have hfinite : a.unpacked = .finite _ _ _ hapos := dif_pos hapos
      rw [hzero, hfinite]
      exact ha'
  · have hzero : a.unpacked = .zero (signOf a.negative) := dif_neg hapos
    rw [hzero]
    by_cases hbpos : 0 < b.mantissa
    · have hfinite : b.unpacked = .finite _ _ _ hbpos := dif_pos hbpos
      rw [hfinite]
      exact hb971
    · have hzero : b.unpacked = .zero (signOf b.negative) := dif_neg hbpos
      rw [hzero, UnpackedFloat.add]
      split <;> trivial

/-- **Sums.** A finite double plus a small one is finite. -/
theorem IsFinite.add {x d : Float} (hx : IsFinite x) (hd : IsSmall d) : IsFinite (x + d) := by
  obtain ⟨a, ha⟩ := hx
  obtain ⟨b, hb, hsmall⟩ := hd
  refine isFinite_of_pack (u := UnpackedFloat.add .binary64 a.unpacked b.unpacked) ?_
    (inRange_add (unpack?_bounds ha).1 (exponent_le ha) (unpack?_bounds hb).1 hsmall)
  rw [← unpack_of_unpack? ha, ← unpack_of_unpack? hb]
  rfl

/-! ## Ratios and whole numbers -/

theorem roundDiv_le (num den : Nat) : roundDiv num den ≤ num / den + 1 := by
  unfold roundDiv
  dsimp only
  repeat' split
  all_goals omega

theorem roundDiv_le_of_le {num den q : Nat} (hden : 0 < den) (h : num ≤ q * den) :
    roundDiv num den ≤ q := by
  have hq : num / den ≤ q := Nat.div_le_of_le_mul (Nat.mul_comm q den ▸ h)
  rcases Nat.lt_or_eq_of_le hq with hlt | heq
  · exact Nat.le_trans (roundDiv_le num den) hlt
  · -- nothing is left over to round
    have hmod : num % den = 0 := by
      have hsum := Nat.div_add_mod num den
      rw [heq, Nat.mul_comm] at hsum
      omega
    unfold roundDiv
    dsimp only
    rw [hmod, if_pos (by omega), heq]

/-- The double nearest to a ratio is finite if its bits are below those of infinity, and then its
exponent is read off them. -/
theorem unpack?_ofRatio (negative : Bool) {num den : Nat}
    (h : magnitudeBits num den < 2047 * twoPow 52) :
    ∃ e, unpack? (ofRatio negative num den) = some e ∧
      e.exponent = max 1 (magnitudeBits num den / twoPow 52 : Nat) - 1075 := by
  obtain ⟨-, hexponent, hfraction, -⟩ := parts_of_magnitude (Nat.le_of_lt h) negative
  have hfield : magnitudeBits num den / twoPow 52 < 2047 :=
    Nat.div_lt_of_lt_mul (Nat.mul_comm _ _ ▸ h)
  unfold unpack?
  rw [toBits_ofRatio]
  dsimp only
  rw [hexponent, if_neg (Nat.ne_of_lt hfield)]
  split
  · next hzero =>
    rw [hzero]
    exact ⟨_, rfl, rfl⟩
  · next hne =>
    refine ⟨_, rfl, ?_⟩
    dsimp only
    omega

private theorem mul_twoPow_lt {num den a b c p q : Nat} (h : num * 2 ^ a < den * 2 ^ b)
    (hle : b + p ≤ q + c + a) : num * 2 ^ p < den * 2 ^ q * 2 ^ c := by
  refine Nat.lt_of_mul_lt_mul_right (a := 2 ^ a) ?_
  calc num * 2 ^ p * 2 ^ a
      = num * 2 ^ a * 2 ^ p := Nat.mul_right_comm _ _ _
    _ < den * 2 ^ b * 2 ^ p := Nat.mul_lt_mul_of_pos_right h (Nat.two_pow_pos p)
    _ = den * 2 ^ (b + p) := by rw [Nat.mul_assoc, ← Nat.pow_add]
    _ ≤ den * 2 ^ (q + c + a) :=
        Nat.mul_le_mul_left _ (Nat.pow_le_pow_right Nat.two_pos hle)
    _ = den * 2 ^ q * 2 ^ c * 2 ^ a := by
        rw [Nat.pow_add, Nat.pow_add, ← Nat.mul_assoc, ← Nat.mul_assoc]

theorem significand_le (num : Nat) {den : Nat} (hden : 0 < den) :
    roundDiv (num * twoPow (-scaleExponent num den).toNat)
      (den * twoPow (scaleExponent num den).toNat) ≤ 2 ^ 53 := by
  have hbound : num * 2 ^ (-scaleExponent num den).toNat <
      den * 2 ^ (scaleExponent num den).toNat * 2 ^ 53 := by
    unfold scaleExponent
    dsimp only
    by_cases hbelow : num * twoPow (-((num.log2 : Int) - den.log2)).toNat <
        den * twoPow ((num.log2 : Int) - den.log2).toNat
    · refine mul_twoPow_lt hbelow ?_
      rw [if_pos (decide_eq_true hbelow)]
      omega
    · -- the lengths of both numbers say enough here
      have hlengths : num * 2 ^ den.log2 < den * 2 ^ (num.log2 + 1) := by
        calc num * 2 ^ den.log2
            < 2 ^ (num.log2 + 1) * 2 ^ den.log2 :=
              Nat.mul_lt_mul_of_pos_right Nat.lt_log2_self (Nat.two_pow_pos _)
          _ ≤ 2 ^ (num.log2 + 1) * den :=
              Nat.mul_le_mul_left _ (Nat.log2_self_le (Nat.ne_of_gt hden))
          _ = den * 2 ^ (num.log2 + 1) := Nat.mul_comm _ _
      refine mul_twoPow_lt hlengths ?_
      rw [if_neg (by simpa using hbelow)]
      omega
  have hdiv := Nat.div_lt_of_lt_mul hbound
  exact Nat.le_trans (roundDiv_le _ _) hdiv

theorem magnitudeBits_le_of_log2 {num den k : Nat} (hden : 0 < den)
    (h : num.log2 ≤ den.log2 + k) : magnitudeBits num den ≤ (1024 + k) * twoPow 52 := by
  have h52 : twoPow 52 = 4503599627370496 := rfl
  unfold magnitudeBits
  split
  · exact Nat.zero_le _
  · have hsignificand := significand_le num hden
    have hscale : scaleExponent num den ≤ k - 52 := by
      unfold scaleExponent
      dsimp only
      split <;> omega
    dsimp only at hsignificand ⊢
    rw [h52]
    omega

/-- The increments of a line are small, since neither side of it is longer than its longer one. -/
theorem isSmall_floatOfRatio {num : Int} {den : Nat} (hden : 0 < den) (h : num.natAbs ≤ den) :
    IsSmall (floatOfRatio num den) := by
  have h52 : twoPow 52 = 4503599627370496 := rfl
  have hlog : num.natAbs.log2 ≤ den.log2 + 0 := by
    rw [Nat.log2_eq_log_two, Nat.log2_eq_log_two]
    exact Nat.log_mono_right h
  have hbits := magnitudeBits_le_of_log2 hden hlog
  rw [h52] at hbits
  have hfinite : magnitudeBits num.natAbs den < 2047 * twoPow 52 := by
    rw [h52]
    omega
  obtain ⟨e, he, hexponent⟩ := unpack?_ofRatio (decide (num < 0)) hfinite
  refine ⟨e, he, ?_⟩
  rw [h52] at hexponent
  omega

/-- A ratio is finite unless its numerator has very many more bits than its denominator. -/
theorem isFinite_floatOfRatio {num : Int} {den k : Nat} (hden : 0 < den)
    (h : num.natAbs.log2 ≤ den.log2 + k) (hk : k < 1023) : IsFinite (floatOfRatio num den) := by
  have h52 : twoPow 52 = 4503599627370496 := rfl
  have hbits := magnitudeBits_le_of_log2 hden h
  have hfinite : magnitudeBits num.natAbs den < 2047 * twoPow 52 := by
    rw [h52] at hbits ⊢
    omega
  obtain ⟨e, he, -⟩ := unpack?_ofRatio (decide (num < 0)) hfinite
  exact ⟨e, he⟩

theorem IsFinite.isInf {x : Float} (h : IsFinite x) : x.isInf = false := by
  obtain ⟨e, he⟩ := h
  have hunpack := unpack_of_unpack? he
  unfold Float.isInf Float.Model.isInf
  rw [hunpack, Exact.unpacked]
  split <;> rfl

/-- A whole number that is not above the greatest double has a finite double. -/
theorem ofInt?_of_le {n : Int} {k : Nat} (hk : k ≤ 971) (h : n.natAbs ≤ (2 ^ 53 - 1) * 2 ^ k) :
    ∃ x, ofInt? n = some x := by
  generalize hm : n.natAbs = m at h
  have hbits : magnitudeBits m 1 < 2047 * twoPow 52 := by
    unfold magnitudeBits
    split
    · decide
    · next hne =>
      have hlog : m.log2 < 53 + k := by
        refine (Nat.log2_lt hne).2 (Nat.lt_of_le_of_lt h ?_)
        rw [Nat.pow_add]
        exact Nat.mul_lt_mul_of_pos_right (by decide) (Nat.two_pow_pos k)
      have hsignificand := significand_le m Nat.one_pos
      -- at the upper end nothing is rounded up
      have hlast : m.log2 = 1023 → roundDiv (m * twoPow (-((m.log2 : Int) - 52)).toNat)
          (1 * twoPow ((m.log2 : Int) - 52).toNat) ≤ 2 ^ 53 - 1 := by
        intro hlast
        have hup : ((m.log2 : Int) - 52).toNat = k := by omega
        have hdown : (-((m.log2 : Int) - 52)).toNat = 0 := by omega
        rw [hup, hdown]
        refine roundDiv_le_of_le (Nat.mul_pos Nat.one_pos (twoPow_pos k)) ?_
        rw [Nat.one_mul]
        exact Nat.le_trans (Nat.le_of_eq (Nat.mul_one m)) h
      have h52 : twoPow 52 = 4503599627370496 := rfl
      rw [scaleExponent_one hne] at hsignificand ⊢
      dsimp only
      rw [h52]
      generalize roundDiv _ _ = significand at *
      omega
  obtain ⟨e, he, -⟩ := unpack?_ofRatio (decide (n < 0)) hbits
  unfold ofInt?
  dsimp only
  rw [hm, he]
  exact ⟨_, rfl⟩

private theorem natAbs_floor_le (e : Exact) :
    e.floor.natAbs ≤ e.mantissa * 2 ^ e.exponent.toNat := by
  refine Nat.le_trans (Int.natAbs_ediv_le_natAbs _ _) (Nat.le_of_eq ?_)
  unfold Exact.numerator
  dsimp only
  split
  · rw [Int.natAbs_neg]
    exact Int.natAbs_natCast _
  · exact Int.natAbs_natCast _

/-- The floor of a finite double has a finite double. -/
theorem ofInt?_floor {x : Float} {e : Exact} (h : unpack? x = some e) :
    ∃ y, ofInt? e.floor = some y := by
  have hmantissa : e.mantissa ≤ 2 ^ 53 - 1 := Nat.le_sub_one_of_lt (unpack?_bounds h).1
  exact ofInt?_of_le (Int.toNat_le.2 (exponent_le h))
    (Nat.le_trans (natAbs_floor_le e) (Nat.mul_le_mul_right _ hmantissa))

end TextArt.Binary64
