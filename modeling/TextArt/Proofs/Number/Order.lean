import Mathlib.Data.Prod.Lex
import TextArt.Proofs.Number

/-!
# Numbers in a row

The order of binary64 numbers is that of their sign, exponent and mantissa, one after the other, so
it passes from one comparison to the next (`floatOrder_lt_of_lt_of_le`). Numbers of different forms
are compared exactly. `Number.Alike` says that no comparison tells two numbers apart: a number from
zero to one is either a double already, or zero or one in another form, and in each case it is like
a double (`Number.exists_alike_real`).
-/

namespace TextArt

open Float.Model (UnpackedFloat)

/-! ## Binary64 numbers -/

/-- What decides about the order of a number: first its sign, with a rank of its own for an
infinity, then the exponent and then the mantissa. -/
def orderKey : UnpackedFloat → Int ×ₗ Int ×ₗ Int
  | .infinity .negative => toLex (-2, toLex (0, 0))
  | .finite .negative m e _ => toLex (-1, toLex (-e, -m))
  | .finite .positive m e _ => toLex (1, toLex (e, m))
  | .infinity .positive => toLex (2, toLex (0, 0))
  | _ => toLex (0, toLex (0, 0))

private theorem compare_neg_neg (a b : Int) : compare (-a) (-b) = (compare a b).swap := by
  rcases Int.lt_trichotomy a b with h | rfl | h
  · rw [Int.compare_eq_lt.2 h, Int.compare_eq_gt.2 (Int.neg_lt_neg h)]
    rfl
  · rw [Int.compare_eq_eq.2 rfl, Int.compare_eq_eq.2 rfl]
    rfl
  · rw [Int.compare_eq_gt.2 h, Int.compare_eq_lt.2 (Int.neg_lt_neg h)]
    rfl

private theorem compare_eq_compare_orderKey {m n : UnpackedFloat} (hm : m ≠ .notANumber)
    (hn : n ≠ .notANumber) : m.compare n = some (compare (orderKey m) (orderKey n)) := by
  cases m with
  | notANumber => exact absurd rfl hm
  | infinity s =>
    cases n with
    | notANumber => exact absurd rfl hn
    | infinity t => cases s <;> cases t <;> rfl
    | zero t => cases s <;> rfl
    | finite t m₂ e₂ h₂ => cases s <;> cases t <;> rfl
  | zero s =>
    cases n with
    | notANumber => exact absurd rfl hn
    | infinity t => cases t <;> rfl
    | zero t => rfl
    | finite t m₂ e₂ h₂ => cases t <;> rfl
  | finite s m₁ e₁ h₁ =>
    cases n with
    | notANumber => exact absurd rfl hn
    | infinity t => cases s <;> cases t <;> rfl
    | zero t => cases s <;> rfl
    | finite t m₂ e₂ h₂ =>
      cases s <;> cases t
      · change some ((compare e₁ e₂).then (compare m₁ m₂)).swap =
          some ((compare (-e₁) (-e₂)).then (compare (-(m₁ : Int)) (-m₂)))
        rw [compare_neg_neg, compare_neg_neg, Number.compare_natCast, Ordering.swap_then]
      · rfl
      · rfl
      · change some ((compare e₁ e₂).then (compare m₁ m₂)) =
          some ((compare e₁ e₂).then (compare (m₁ : Int) m₂))
        rw [Number.compare_natCast]

section

variable {x y z : Float}

theorem unpack_ne_of_floatOrder {o : Ordering} (h : floatOrder x y = some o) :
    x.toModel.unpack ≠ .notANumber ∧ y.toModel.unpack ≠ .notANumber := by
  unfold floatOrder at h
  constructor
  · intro hx
    rw [hx] at h
    cases h
  · intro hy
    rw [hy] at h
    cases hx : x.toModel.unpack with
    | infinity s =>
      rw [hx] at h
      cases s <;> cases h
    | _ =>
      rw [hx] at h
      cases h

theorem floatOrder_eq_compare_orderKey (hx : x.toModel.unpack ≠ .notANumber)
    (hy : y.toModel.unpack ≠ .notANumber) :
    floatOrder x y = some (compare (orderKey x.toModel.unpack) (orderKey y.toModel.unpack)) :=
  compare_eq_compare_orderKey hx hy

private theorem floatOrder_lt_of_lt_of_le (h : floatOrder x y = some .lt)
    (h' : floatOrder y z = some .lt ∨ floatOrder y z = some .eq) : floatOrder x z = some .lt := by
  obtain ⟨o, ho⟩ : ∃ o, floatOrder y z = some o := h'.elim (⟨_, ·⟩) (⟨_, ·⟩)
  obtain ⟨hx, hy⟩ := unpack_ne_of_floatOrder h
  have hz := (unpack_ne_of_floatOrder ho).2
  rw [floatOrder_eq_compare_orderKey hx hy, Option.some.injEq] at h
  rw [floatOrder_eq_compare_orderKey hy hz, Option.some.injEq, Option.some.injEq] at h'
  rw [floatOrder_eq_compare_orderKey hx hz, Option.some.injEq]
  refine Std.TransCmp.lt_of_lt_of_isLE h ?_
  rcases h' with h' | h' <;> rw [h'] <;> rfl

/-- Equal doubles are compared alike, be they zeros of different signs. -/
theorem floatOrder_congr (h : floatOrder x y = some .eq) (z : Float) :
    floatOrder x z = floatOrder y z := by
  obtain ⟨hx, hy⟩ := unpack_ne_of_floatOrder h
  by_cases hz : z.toModel.unpack = .notANumber
  · have hnone : ∀ x : Float, floatOrder x z = none := by
      intro x
      by_contra hsome
      obtain ⟨o, ho⟩ := Option.ne_none_iff_exists'.1 hsome
      exact (unpack_ne_of_floatOrder ho).2 hz
    rw [hnone, hnone]
  · rw [floatOrder_eq_compare_orderKey hx hy, Option.some.injEq] at h
    rw [floatOrder_eq_compare_orderKey hx hz, floatOrder_eq_compare_orderKey hy hz,
      Std.TransCmp.congr_left h]

end

/-! ## Numbers of all forms -/

namespace Number

/-- No comparison tells the two numbers apart. -/
def Alike (a b : Number) : Prop := ∀ e, compare? a e = compare? b e

theorem Alike.refl (a : Number) : a.Alike a := fun _ ↦ rfl

theorem Alike.compare? {a a' b b' : Number} (ha : a.Alike a') (hb : b.Alike b') :
    Number.compare? a b = Number.compare? a' b' := by
  rw [ha b, compare?_swap b a', hb a', ← compare?_swap b' a']

theorem Alike.trans {a b c : Number} (h : a.Alike b) (h' : b.Alike c) : a.Alike c :=
  fun e ↦ (h e).trans (h' e)

theorem alike_flag (b : Bool) : (flag b).Alike (whole (if b then 1 else 0)) := by
  intro e
  cases e <;> rfl

theorem alike_whole {n : Int} {y : Float} {f : Binary64.Exact} (hy : Binary64.unpack? y = some f)
    (hvalue : f.numerator = n * f.denominator)
    (hreal : ∀ x, Number.compare? (real x) (whole n) = floatOrder x y) :
    (whole n).Alike (real y) := by
  have hwhole (k : Int) : Number.compare? (real y) (whole k) = some (compare n k) := by
    have hdefn : Number.compare? (real y) (whole k) =
        (compare?.compareInt? (whole k) y).map Ordering.swap := rfl
    have hden : (0 : Int) < f.denominator := Int.natCast_pos.2 f.denominator_pos
    have hscale : compare (k * f.denominator) (n * f.denominator) = compare k n := by
      rcases Int.lt_trichotomy k n with h | rfl | h
      · rw [Int.compare_eq_lt.2 h, Int.compare_eq_lt.2 (Int.mul_lt_mul_of_pos_right h hden)]
      · rw [Int.compare_eq_eq.2 rfl, Int.compare_eq_eq.2 rfl]
      · rw [Int.compare_eq_gt.2 h, Int.compare_eq_gt.2 (Int.mul_lt_mul_of_pos_right h hden)]
    rw [hdefn, compare?.compareInt?, hy]
    dsimp only
    rw [Binary64.Exact.compareInt, hvalue]
    change some (compare (k * f.denominator) (n * f.denominator)).swap = _
    rw [hscale, Int.compare_swap]
  intro e
  cases e with
  | real x => rw [compare?_swap (real x) (whole n), hreal, compare?_real, ← floatOrder_swap]
  | whole k => rw [hwhole, compare?_whole]
  | flag b =>
    have hflag (a : Number) : Number.compare? a (flag b) =
        Number.compare? a (whole (if b then 1 else 0)) := by
      rw [compare?_swap (flag b) a, alike_flag b a, ← compare?_swap]
    rw [hflag, hflag, hwhole, compare?_whole]

theorem alike_whole_zero : (whole 0).Alike (real 0) :=
  alike_whole unpack?_zero ((numerator_of_zero rfl).trans (Int.zero_mul _).symm)
    compare?_real_whole_zero

theorem alike_whole_one : (whole 1).Alike (real 1) :=
  alike_whole unpack?_one (by decide) compare?_real_whole_one

theorem Alike.lt_of_lt_of_le {a b c : Number} {x y z : Float} (ha : a.Alike (real x))
    (hb : b.Alike (real y)) (hc : c.Alike (real z)) (h : a.lt b = true) (h' : b.le c = true) :
    a.lt c = true := by
  rw [lt, ha.compare? hb, compare?_real, beq_iff_eq] at h
  rw [le, hb.compare? hc, compare?_real, Bool.or_eq_true, beq_iff_eq, beq_iff_eq] at h'
  rw [lt, ha.compare? hc, compare?_real, beq_iff_eq]
  exact floatOrder_lt_of_lt_of_le h h'

theorem exists_alike_of_same {n : Int} {y : Float} (hy : (whole n).Alike (real y)) {d : Number}
    (hd : d.same (whole n) = true) : ∃ x, d.Alike (real x) ∧ floatOrder x y = some .eq := by
  have hself : floatOrder y y = some .eq := by
    rw [← compare?_real, ← hy.compare? hy, compare?_whole, Int.compare_eq_eq.2 rfl]
  have hwhole (m : Int) (h : (whole m).same (whole n) = true) : m = n := by
    rwa [same_whole, decide_eq_true_eq] at h
  cases d with
  | flag b =>
    have hb : (if b then 1 else 0) = n := hwhole _ hd
    exact ⟨y, (alike_flag b).trans (hb ▸ hy), hself⟩
  | whole m =>
    obtain rfl := hwhole m hd
    exact ⟨y, hy, hself⟩
  | real x =>
    rw [same, compare?_swap (whole n) (real x), hy, ← compare?_swap, compare?_real,
      beq_iff_eq] at hd
    exact ⟨x, .refl _, hd⟩

/-- The number is from zero to one. -/
def InUnit (d : Number) : Prop := (real 0).le d = true ∧ d.le (real 1) = true

theorem exists_alike_real {d : Number} (hd : d.InUnit) : ∃ y, d.Alike (real y) := by
  have hwhole (n : Int) (h : (whole n).InUnit) : ∃ y, (whole n).Alike (real y) := by
    obtain ⟨hlow, hhigh⟩ := h
    rw [le, ← alike_whole_zero, ← le, le_whole, decide_eq_true_eq] at hlow
    rw [le, compare?_swap (real 1) (whole n), ← alike_whole_one, ← compare?_swap, ← le, le_whole,
      decide_eq_true_eq] at hhigh
    obtain rfl | rfl : n = 0 ∨ n = 1 := by omega
    · exact ⟨0, alike_whole_zero⟩
    · exact ⟨1, alike_whole_one⟩
  cases d with
  | flag b =>
    cases b with
    | false => exact ⟨0, (alike_flag false).trans alike_whole_zero⟩
    | true => exact ⟨1, (alike_flag true).trans alike_whole_one⟩
  | whole n => exact hwhole n hd
  | real y => exact ⟨y, .refl _⟩

theorem inUnit_of_alike {d : Number} {y : Float} (hd : d.Alike (real y)) :
    d.InUnit ↔ (floatOrder 0 y = some .lt ∨ floatOrder 0 y = some .eq) ∧
      (floatOrder y 1 = some .lt ∨ floatOrder y 1 = some .eq) := by
  rw [InUnit, le, le, (Alike.refl (real 0)).compare? hd, hd, compare?_real, compare?_real]
  simp only [Bool.or_eq_true, beq_iff_eq]

theorem inUnit_of_same_zero {d : Number} (hd : d.same (whole 0) = true) : d.InUnit := by
  obtain ⟨x, hx, hzero⟩ := exists_alike_of_same alike_whole_zero hd
  refine (inUnit_of_alike hx).2 ⟨.inr ?_, .inl ?_⟩
  · rw [floatOrder_swap, hzero]
    rfl
  · rw [floatOrder_congr hzero]
    decide +kernel

theorem inUnit_of_same_one {d : Number} (hd : d.same (whole 1) = true) : d.InUnit := by
  obtain ⟨x, hx, hone⟩ := exists_alike_of_same alike_whole_one hd
  refine (inUnit_of_alike hx).2 ⟨.inl ?_, .inr hone⟩
  rw [floatOrder_swap, floatOrder_congr hone]
  decide +kernel

/-- What is not below zero is not below any number that equals zero, whatever its form. -/
theorem not_lt_of_same_zero {d : Number} (hd : d.same (whole 0) = true) {x : Float}
    (hx : (real x).lt (whole 0) = false) : (real x).lt d = false := by
  obtain ⟨y, hy, hzero⟩ := exists_alike_of_same alike_whole_zero hd
  rw [lt, compare?_real_whole_zero] at hx
  rwa [lt, (Alike.refl (real x)).compare? hy, compare?_real, floatOrder_swap,
    floatOrder_congr hzero, ← floatOrder_swap]

/-- What is below one is below every number that equals one, whatever its form. -/
theorem lt_of_same_one {d : Number} (hd : d.same (whole 1) = true) {x : Float}
    (hx : floatOrder x 1 = some .lt) : (real x).lt d = true := by
  obtain ⟨y, hy, hone⟩ := exists_alike_of_same alike_whole_one hd
  rw [lt, (Alike.refl (real x)).compare? hy, compare?_real, floatOrder_swap, floatOrder_congr hone,
    ← floatOrder_swap, hx]
  rfl

end Number

end TextArt
