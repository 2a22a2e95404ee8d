import TextArt.Proofs.Binary64

/-!
# The order of binary64 numbers

The comparisons of doubles all come from one order on what their bits stand for, in which a NaN has
no place. `Number.compare?` puts the comparisons together again and gets that order back.

With a whole number, `Number.compare?` goes by the exact reading of the double. For zero and one
that makes no difference: a double is compared with them as with the doubles of the same value.
What a whole number becomes as a double is known as far as it matters to checks: only zero and one
lie between zero and one, only two becomes two, and no whole number becomes a half.
-/

namespace TextArt

open Float.Model (UnpackedFloat)

/-- The order of two doubles, or nothing if one of them is a NaN. -/
def floatOrder (x y : Float) : Option Ordering := x.toModel.unpack.compare y.toModel.unpack

private theorem compare_swap (m n : UnpackedFloat) : (m.compare n).map .swap = n.compare m := by
  have hsign : ∀ s t : UnpackedFloat.Sign, (compare s t).swap = compare t s := by
    rintro ⟨⟩ ⟨⟩ <;> rfl
  have hsize : ∀ (e₁ e₂ : Int) (m₁ m₂ : Nat),
      ((compare e₁ e₂).then (compare m₁ m₂)).swap = (compare e₂ e₁).then (compare m₂ m₁) := by
    intro e₁ e₂ m₁ m₂
    rw [Ordering.swap_then, Int.compare_swap, Nat.compare_swap]
  cases m with
  | notANumber => cases n <;> rfl
  | infinity s =>
    cases n with
    | infinity t => exact congrArg some (hsign s t)
    | _ => cases s <;> rfl
  | zero s =>
    cases n with
    | infinity t => cases t <;> rfl
    | finite t => cases t <;> rfl
    | _ => rfl
  | finite s m₁ e₁ h₁ =>
    cases n with
    | infinity t => cases t <;> rfl
    | notANumber => rfl
    | zero t => cases s <;> rfl
    | finite t m₂ e₂ h₂ =>
      cases s <;> cases t
      · exact congrArg some (congrArg Ordering.swap (hsize e₁ e₂ m₁ m₂))
      · rfl
      · rfl
      · exact congrArg some (hsize e₁ e₂ m₁ m₂)

theorem floatOrder_swap (x y : Float) : floatOrder y x = (floatOrder x y).map .swap :=
  (compare_swap _ _).symm

theorem float_lt_iff {x y : Float} : x < y ↔ floatOrder x y = some .lt := by
  have h : x < y ↔ (floatOrder x y == some .lt) = true := by
    change (decide ((floatOrder x y == some .lt) = true)) = true ↔ _
    rw [decide_eq_true_eq]
  rw [h, beq_iff_eq]

theorem float_beq_iff {x y : Float} : (x == y) = true ↔ floatOrder x y = some .eq := by
  change (floatOrder x y == some .eq) = true ↔ _
  rw [beq_iff_eq]

theorem float_le_iff {x y : Float} :
    x ≤ y ↔ floatOrder x y = some .lt ∨ floatOrder x y = some .eq := by
  have h : x ≤ y ↔ (floatOrder x y).any (·.isLE) = true := by
    change (decide ((floatOrder x y).any (·.isLE) = true)) = true ↔ _
    rw [decide_eq_true_eq]
  rw [h]
  rcases floatOrder x y with - | (- | - | -) <;> decide

namespace Number

/-- Comparing doubles one way and the other gives their order. -/
theorem compare?_real (x y : Float) : compare? (real x) (real y) = floatOrder x y := by
  have hgt : y < x ↔ floatOrder x y = some .gt := by
    rw [float_lt_iff, floatOrder_swap]
    rcases floatOrder x y with - | (- | - | -) <;> decide
  rw [compare?]
  simp only [float_lt_iff, hgt, float_beq_iff]
  rcases floatOrder x y with - | (- | - | -) <;> rfl

theorem le_real (x y : Float) : (real x).le (real y) = decide (x ≤ y) := by
  rw [le, compare?_real, Bool.eq_iff_iff, decide_eq_true_eq, float_le_iff]
  simp

theorem compare?_whole (m n : Int) : compare? (whole m) (whole n) = some (compare m n) := rfl

theorem lt_whole (m n : Int) : (whole m).lt (whole n) = decide (m < n) := by
  rw [lt, compare?_whole, Bool.eq_iff_iff, decide_eq_true_eq, ← Int.compare_eq_lt, beq_iff_eq,
    Option.some.injEq]

theorem le_whole (m n : Int) : (whole m).le (whole n) = decide (m ≤ n) := by
  rw [le, compare?_whole, Bool.eq_iff_iff, decide_eq_true_eq]
  rcases Int.lt_trichotomy m n with h | h | h
  · simp [Int.compare_eq_lt.2 h, Int.le_of_lt h]
  · simp [Int.compare_eq_eq.2 h, Int.le_of_eq h]
  · simp [Int.compare_eq_gt.2 h, Int.not_le.2 h]

theorem same_whole (m n : Int) : (whole m).same (whole n) = decide (m = n) := by
  rw [same, compare?_whole, Bool.eq_iff_iff, decide_eq_true_eq, ← Int.compare_eq_eq, beq_iff_eq,
    Option.some.injEq]

/-- Comparing two numbers the other way round gives the opposite order. -/
theorem compare?_swap (a b : Number) : compare? b a = (compare? a b).map .swap := by
  have hswap (o : Option Ordering) : o = (o.map Ordering.swap).map Ordering.swap := by
    rcases o with _ | _ | _ | _ <;> rfl
  have hints : some (compare (b.int?.getD 0) (a.int?.getD 0)) =
      (some (compare (a.int?.getD 0) (b.int?.getD 0))).map Ordering.swap :=
    congrArg some (Int.compare_swap _ _).symm
  cases a with
  | real x =>
    cases b with
    | real y => rw [compare?_real, compare?_real, floatOrder_swap]
    | flag _ => exact hswap _
    | whole _ => exact hswap _
  | flag _ =>
    cases b with
    | real y => rfl
    | flag _ => exact hints
    | whole _ => exact hints
  | whole _ =>
    cases b with
    | real y => rfl
    | flag _ => exact hints
    | whole _ => exact hints

theorem lt_eq_false_of_le {a b : Number} (h : a.le b = true) : b.lt a = false := by
  unfold le at h
  unfold lt
  rw [compare?_swap a b]
  cases hcompare : compare? a b with
  | none => rfl
  | some o =>
    rw [hcompare] at h
    cases o with
    | lt => rfl
    | eq => rfl
    | gt => cases h
/-! ## Readings -/

open Binary64

theorem unpack?_zero : unpack? 0 = some ⟨false, 0, -1074⟩ := by decide +kernel

theorem unpack?_half : unpack? 0.5 = some ⟨false, twoPow 52, -53⟩ := by decide +kernel

theorem unpack?_one : unpack? 1 = some ⟨false, twoPow 52, -52⟩ := by decide +kernel

theorem unpack?_two : unpack? 2 = some ⟨false, twoPow 52, -51⟩ := by decide +kernel

variable {x y : Float} {e f : Exact}

theorem floatOrder_of_unpack? (hx : unpack? x = some e) (hy : unpack? y = some f) :
    floatOrder x y = e.unpacked.compare f.unpacked := by
  rw [floatOrder, unpack_of_unpack? hx, unpack_of_unpack? hy]

/-- A double below zero is below every double that is not. -/
theorem floatOrder_of_negative (hx : unpack? x = some e) (hneg : e.negative = true)
    (hpos : 0 < e.mantissa) (hy : unpack? y = some f) (hf : f.negative = false) :
    floatOrder x y = some .lt := by
  rw [floatOrder_of_unpack? hx hy, Exact.unpacked, dif_pos hpos, hneg, Exact.unpacked, hf]
  split <;> rfl

/-- Of two positive doubles, the one with the greater exponent is the greater one. -/
theorem floatOrder_of_exponent (hx : unpack? x = some e) (he : e.negative = false)
    (hpos : 0 < e.mantissa) (hy : unpack? y = some f) (hf : f.negative = false)
    (hexponent : f.exponent < e.exponent) : floatOrder x y = some .gt := by
  rw [floatOrder_of_unpack? hx hy, Exact.unpacked, dif_pos hpos, he, Exact.unpacked, hf]
  split
  · change some ((compare e.exponent f.exponent).then _) = _
    rw [Int.compare_eq_gt.2 hexponent]
    rfl
  · rfl

/-! ## Whole numbers -/

private theorem floatOrder_of_unpack?_eq_none (hx : unpack? x = none) (hy : unpack? y = some f) :
    floatOrder x y = floatOrder x 0 := by
  rw [floatOrder, floatOrder, unpack_of_unpack? hy, unpack_of_unpack? unpack?_zero,
    Exact.unpacked, Exact.unpacked]
  rcases unpack_of_unpack?_eq_none hx with ⟨s, hs⟩ | hnan
  · rw [hs]
    split <;> cases s <;> rfl
  · rw [hnan]
    split <;> rfl

/-- A double is compared with a whole number as with the double of the same value, if finite
doubles are. -/
theorem compare?_real_whole {n : Int} (hy : unpack? y = some f)
    (h : ∀ e, unpack? x = some e →
      e.unpacked.compare f.unpacked = some (Exact.compareInt n e).swap) :
    compare? (real x) (whole n) = floatOrder x y := by
  have hdefn : compare? (real x) (whole n) =
      (compare?.compareInt? (whole n) x).map Ordering.swap := rfl
  rw [hdefn, compare?.compareInt?]
  cases hx : unpack? x with
  | none =>
    -- an infinity is above or below every number, and a NaN is neither
    have hgt : 0 < x ↔ floatOrder x 0 = some .gt := by
      rw [float_lt_iff, floatOrder_swap]
      rcases floatOrder x 0 with - | (- | - | -) <;> decide
    have heq : floatOrder x 0 ≠ some .eq := by
      rw [floatOrder, unpack_of_unpack? unpack?_zero]
      rcases unpack_of_unpack?_eq_none hx with ⟨s, hs⟩ | hnan
      · rw [hs]
        cases s <;> decide
      · rw [hnan]
        decide
    rw [floatOrder_of_unpack?_eq_none hx hy]
    simp only [float_lt_iff (x := x), hgt]
    rcases hfloat : floatOrder x 0 with - | (- | - | -)
    · rfl
    · rfl
    · exact absurd hfloat heq
    · rfl
  | some e =>
    rw [floatOrder_of_unpack? hx hy, h e hx]
    rfl

theorem numerator_of_negative {e : Exact} (hneg : e.negative = true) (hpos : 0 < e.mantissa) :
    e.numerator < 0 := by
  have : 0 < e.mantissa * twoPow e.exponent.toNat := Nat.mul_pos hpos (twoPow_pos _)
  rw [Exact.numerator, hneg, if_pos rfl]
  omega

theorem numerator_of_positive {e : Exact} (hneg : e.negative = false) :
    e.numerator = (e.mantissa * twoPow e.exponent.toNat : Nat) := by
  rw [Exact.numerator, hneg, if_neg Bool.false_ne_true]

theorem numerator_of_zero {e : Exact} (hzero : e.mantissa = 0) : e.numerator = 0 := by
  rw [Exact.numerator, hzero, Nat.zero_mul]
  split <;> rfl

/-- An exact reading is compared with zero by its sign. -/
theorem compare?_real_whole_zero (x : Float) : compare? (real x) (whole 0) = floatOrder x 0 := by
  refine compare?_real_whole unpack?_zero fun e he ↦ ?_
  rw [Exact.compareInt, Int.zero_mul, Exact.unpacked]
  split
  · next hpos =>
    cases hneg : e.negative with
    | true =>
      rw [Int.compare_eq_gt.2 (numerator_of_negative hneg hpos)]
      rfl
    | false =>
      have hnum : 0 < e.numerator := by
        rw [numerator_of_positive hneg]
        exact Int.natCast_pos.2 (Nat.mul_pos hpos (twoPow_pos _))
      rw [Int.compare_eq_lt.2 hnum]
      rfl
  · next hzero =>
    rw [numerator_of_zero (Nat.eq_zero_of_not_pos hzero)]
    rfl

/-- A double without the sign is not below zero. -/
theorem lt_whole_zero_of_toBits_lt {x : Float} (h : x.toBits.toNat < twoPow 63) :
    (real x).lt (whole 0) = false := by
  have hsign : decide (twoPow 63 ≤ x.toBits.toNat) = false := decide_eq_false (Nat.not_le.2 h)
  have horder : floatOrder x 0 ≠ some .lt := by
    rw [floatOrder, unpack_of_unpack? unpack?_zero]
    cases hx : unpack? x with
    | none =>
      unfold unpack? at hx
      dsimp only at hx
      split at hx
      · next htop =>
        rw [Float.Model.unpack, unpack_top x.toModel.toBits.toBitVec htop]
        split
        · have hpos : signOf (decide (twoPow 63 ≤ x.toModel.toBits.toBitVec.toNat)) = .positive :=
            congrArg signOf hsign
          rw [hpos]
          decide
        · decide
      · split at hx <;> cases hx
    | some e =>
      have hneg : e.negative = false := by
        unfold unpack? at hx
        dsimp only at hx
        split at hx
        · cases hx
        · split at hx <;> obtain rfl := Option.some.inj hx <;> exact hsign
      rw [unpack_of_unpack? hx, Exact.unpacked, hneg]
      split <;> rintro ⟨⟩
  rw [lt, compare?_real_whole_zero, beq_eq_false_iff_ne]
  exact horder

theorem compare_natCast (a b : Nat) : compare (a : Int) (b : Int) = compare a b := by
  rcases Nat.lt_trichotomy a b with h | h | h
  · rw [Nat.compare_eq_lt.2 h, Int.compare_eq_lt.2 (Int.ofNat_lt.2 h)]
  · rw [Nat.compare_eq_eq.2 h, Int.compare_eq_eq.2 (congrArg Nat.cast h)]
  · rw [Nat.compare_eq_gt.2 h, Int.compare_eq_gt.2 (Int.ofNat_lt.2 h)]

private theorem compare_one {x : Float} {e : Exact} (he : unpack? x = some e) :
    (compare e.exponent (-52)).then (compare e.mantissa (twoPow 52)) =
      (compare (e.denominator : Int) (e.mantissa * twoPow e.exponent.toNat : Nat)).swap := by
  obtain ⟨hmantissa, hexponent⟩ := unpack?_bounds he
  rw [Int.compare_swap, Exact.denominator]
  rcases Int.lt_trichotomy e.exponent (-52) with hlt | heq | hgt
  · -- even the greatest mantissa is below one
    have hpow : twoPow 53 ≤ twoPow (-e.exponent).toNat :=
      Nat.pow_le_pow_right Nat.two_pos (by omega)
    have hone : e.exponent.toNat = 0 := by omega
    rw [hone, show twoPow 0 = 1 from rfl, Nat.mul_one, Int.compare_eq_lt.2 hlt,
      Int.compare_eq_lt.2 (by omega)]
    rfl
  · rw [heq, show (- -52 : Int).toNat = 52 from rfl, show (-52 : Int).toNat = 0 from rfl,
      show twoPow 0 = 1 from rfl, Nat.mul_one, Int.compare_eq_eq.2 rfl, compare_natCast]
    rfl
  · -- even the least normal mantissa is above one
    have hnormal : twoPow 52 ≤ e.mantissa := by omega
    have hpow : twoPow (-e.exponent).toNat < twoPow 52 :=
      Nat.pow_lt_pow_right Nat.one_lt_two (by omega)
    have hscale : e.mantissa ≤ e.mantissa * twoPow e.exponent.toNat :=
      Nat.le_mul_of_pos_right _ (twoPow_pos _)
    rw [Int.compare_eq_gt.2 hgt, Int.compare_eq_gt.2 (by omega)]
    rfl

theorem compare?_real_whole_one (x : Float) : compare? (real x) (whole 1) = floatOrder x 1 := by
  refine compare?_real_whole unpack?_one fun e he ↦ ?_
  have hden := e.denominator_pos
  rw [Exact.compareInt, Int.one_mul, Exact.unpacked]
  split
  · next hpos =>
    cases hneg : e.negative with
    | true =>
      have hnum := numerator_of_negative hneg hpos
      rw [Int.compare_eq_gt.2 (by omega)]
      rfl
    | false =>
      rw [numerator_of_positive hneg, ← compare_one he]
      rfl
  · next hzero =>
    rw [numerator_of_zero (Nat.eq_zero_of_not_pos hzero), Int.compare_eq_gt.2 (by omega)]
    rfl

/-! ## Whole numbers as doubles -/

/-- The order of the double of a whole number and a positive double that is below a power of two:
the number is negative, below that power or above the double. -/
theorem floatOrder_of_ofInt? {n : Int} (hn : n ≠ 0) (h : ofInt? n = some x)
    (hy : unpack? y = some f) (hf : f.negative = false)
    (hbound : 0 < n → f.exponent < (n.natAbs.log2 : Int) - 52) :
    floatOrder x y = some (if n < 0 then .lt else .gt) := by
  obtain ⟨e, he, hneg, hnormal, hexponent⟩ := unpack?_of_ofInt? hn h
  have hpos : 0 < e.mantissa := Nat.lt_of_lt_of_le (twoPow_pos 52) hnormal
  split
  · next hlt =>
    exact floatOrder_of_negative he (by rw [hneg, decide_eq_true hlt]) hpos hy hf
  · next hge =>
    exact floatOrder_of_exponent he (by rw [hneg, decide_eq_false hge]) hpos hy hf
      (Int.lt_of_lt_of_le (hbound (by omega)) hexponent)

theorem beq_eq_false_of_floatOrder {o : Ordering} (h : floatOrder x y = some o) (ho : o ≠ .eq) :
    (y == x) = false := by
  rw [Bool.eq_false_iff, Ne, float_beq_iff, floatOrder_swap, h]
  cases o with
  | eq => exact absurd rfl ho
  | _ => decide

/-- A whole number between zero and one is one of the two. -/
theorem eq_of_ofInt?_between {n : Int} (h : ofInt? n = some x) (hlow : 0 ≤ x) (hhigh : x ≤ 1) :
    n = 0 ∧ x = 0 ∨ n = 1 ∧ x = 1 := by
  rw [float_le_iff, floatOrder_swap] at hlow
  rw [float_le_iff] at hhigh
  rcases Int.lt_trichotomy n 0 with hlt | rfl | hgt
  · rw [floatOrder_of_ofInt? (by omega) h unpack?_zero rfl (by omega), if_pos hlt] at hlow
    simp at hlow
  · exact .inl ⟨rfl, (Option.some.inj h).symm⟩
  · by_cases hone : n = 1
    · subst hone
      exact .inr ⟨rfl, (Option.some.inj h).symm⟩
    · -- from two on, the exponent is greater than that of one
      have hlog : 1 ≤ n.natAbs.log2 := (Nat.le_log2 (by omega)).2 (by omega)
      rw [floatOrder_of_ofInt? (by omega) h unpack?_one rfl (by dsimp only; omega),
        if_neg (by omega)] at hhigh
      simp at hhigh

/-- No whole number is a half. -/
theorem half_beq_of_ofInt? {n : Int} (h : ofInt? n = some x) : ((0.5 : Float) == x) = false := by
  by_cases hn : n = 0
  · subst hn
    obtain rfl := Option.some.inj h
    rfl
  · refine beq_eq_false_of_floatOrder (floatOrder_of_ofInt? hn h unpack?_half rfl ?_) ?_
    · dsimp only
      omega
    · split <;> decide

/-- Two is the only whole number whose double is two. -/
theorem two_beq_of_ofInt? {n : Int} (h : ofInt? n = some x) :
    ((2 : Float) == x) = decide (n = 2) := by
  by_cases hn : n = 0 ∨ n = 1 ∨ n = 2 ∨ n = 3
  · rcases hn with rfl | rfl | rfl | rfl <;>
      obtain rfl := Option.some.inj h <;>
      rfl
  · rw [decide_eq_false (by omega)]
    refine beq_eq_false_of_floatOrder
      (floatOrder_of_ofInt? (by omega) h unpack?_two rfl fun hpos ↦ ?_) ?_
    · have hlog : 2 ≤ n.natAbs.log2 := (Nat.le_log2 (by omega)).2 (by omega)
      dsimp only
      omega
    · split <;> decide

/-- A double and a constant are the same whichever of them comes first. -/
theorem same_real (x y : Float) : (real x).same (real y) = (y == x) := by
  rw [same, compare?_real, Bool.eq_iff_iff, float_beq_iff, floatOrder_swap x y, beq_iff_eq]
  rcases floatOrder x y with - | (- | - | -) <;> decide

theorem same_whole_half (n : Int) : (whole n).same (real 0.5) = false := by
  have hdefn : compare? (whole n) (real 0.5) = compare?.compareInt? (whole n) 0.5 := rfl
  rw [same, hdefn, compare?.compareInt?, unpack?_half, Bool.eq_false_iff, Ne, beq_iff_eq,
    Option.some.injEq, Exact.compareInt, Int.compare_eq_eq]
  change ¬n * 9007199254740992 = 4503599627370496
  omega

theorem same_whole_two (n : Int) : (whole n).same (real 2) = decide (n = 2) := by
  have hdefn : compare? (whole n) (real 2) = compare?.compareInt? (whole n) 2 := rfl
  rw [same, hdefn, compare?.compareInt?, unpack?_two, Bool.eq_iff_iff, decide_eq_true_eq,
    beq_iff_eq, Option.some.injEq, Exact.compareInt, Int.compare_eq_eq]
  change n * 2251799813685248 = 4503599627370496 ↔ n = 2
  omega

end Number

end TextArt
